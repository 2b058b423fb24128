import FieldSurvey.App
import FieldSurvey.Proofs.Registry.Replay
import FieldSurvey.Proofs.Surveyor.Finishing

/-!
# Turns of the application

Beside those who take turns with the surveyor there is the third party that reconciles
the delivered batches, and whoever shuts the application down, who closes the delivery.
A worker with a batch is answered by the delivery, and by nobody else.
-/

namespace FieldSurvey.App

open Model (ResultRecord)
open Registry (Occasion reconciled)
open Survey (Wait Wake)
open Surveyor (Moment Orderly Keeps Working Unfinished unfinished_nil Signal finished)

/-- A step that somebody takes. -/
inductive Turn where
  /-- a caller, the timer or the worker takes a turn with the surveyor -/
  | survey (turn : Surveyor.Turn)
  /-- the next batch is reconciled -/
  | reconcile (occasion : Occasion)
  /-- no more batches are taken -/
  | close

/-- What the worker is told of its batch; it asks for nothing else meanwhile. -/
def receipt (answer : Except String Unit) : (wait : Wait) → wait.Answer
  | .resolve _ => none
  | .reverse _ => none
  | .find _ _ => .ok []
  | .publish _ => answer

/-- The application after a step of its surveyor. -/
def moved (app : App) (step : Surveyor × List Signal) : App × List Signal :=
  ({ app with surveyor := step.1 }, step.2)

/-- Wakes the worker.  One that hands a batch over is answered by the delivery, and waits
on if that is full. -/
def wake (now : Moment) (wake : Wake) (app : App) : App × List Signal :=
  match app.surveyor.handing with
  | none => app.moved (app.surveyor.resume now wake)
  | some (ticket, batch) =>
    match app.deliver batch (app.surveyor.isCancelled ticket) with
    | (none, app) => (app, [])
    | (some answer, app) => app.moved (app.surveyor.resume now (.answered (receipt answer)))

/-- What a turn does to the application, and the signals that it gives. -/
def Turn.act : Turn → App → App × List Signal
  | survey (.resume now wake), app => app.wake now wake
  | survey turn, app => app.moved (turn.act app.surveyor)
  | reconcile occasion, app => (app.reconcileNext occasion.supply occasion.now, [])
  | close, app => ({ app with delivery := app.delivery.close }, [])

/-- A sequence of turns, with all signals in the order in which they are given. -/
def play (turns : List Turn) (app : App) : App × List Signal :=
  turns.foldl (fun reached turn =>
    ((turn.act reached.1).1, reached.2 ++ (turn.act reached.1).2)) (app, [])

theorem play_concat (turns : List Turn) (turn : Turn) (app : App) :
    play (turns ++ [turn]) app =
      ((turn.act (play turns app).1).1,
        (play turns app).2 ++ (turn.act (play turns app).1).2) := by
  simp [play]

/-! ## What a turn can do -/

/-- What a turn does with batches. -/
inductive Moves (before : App) (step : App × List Signal) : Prop where
  /-- no batch is moved, and no request finishes -/
  | none (unfinished : Unfinished step.2)
    (batches : step.1.delivery.batches = before.delivery.batches)
    (registry : step.1.registry = before.registry)
  /-- a batch is taken, and its request finishes -/
  | handed (ticket : Nat) (batch : List ResultRecord)
    (hands : before.surveyor.handing = some (ticket, batch))
    (told : finished step.2 = [ticket])
    (last : Surveyor.kindsOf (some ticket) step.2 = [.finished])
    (gone : ticket ∉ step.1.surveyor.tickets)
    (batches : step.1.delivery.batches = before.delivery.batches ++ [batch])
    (registry : step.1.registry = before.registry)
  /-- the next batch is reconciled -/
  | reconciled (occasion : Occasion) (batch : List ResultRecord)
    (unfinished : Unfinished step.2)
    (batches : before.delivery.batches = batch :: step.1.delivery.batches)
    (registry : step.1.registry = Registry.reconciled before.surveyor.discoverer.id
      before.attempts before.registry (occasion, batch))

/-- All that a turn can do. -/
structure Proceeds (before : App) (step : App × List Signal) : Prop where
  attempts : step.1.attempts = before.attempts
  keeps : Keeps before.surveyor (step.1.surveyor, step.2)
  working : Working step.1.surveyor
  moves : Moves before step
  /-- a worker that hands a batch over does so until its request has ended -/
  hands : ∀ ticket batch, before.surveyor.handing = some (ticket, batch) →
    step.1.surveyor.handing = some (ticket, batch) ∨ ticket ∉ step.1.surveyor.tickets

variable {app : App}

theorem batches_of_taken {delivery after : Registry.Delivery} {batch : List ResultRecord}
    {isCancelled : Bool} (taken : delivery.offer batch isCancelled = .taken after) :
    after.batches = delivery.batches ++ [batch] := by
  unfold Registry.Delivery.offer at taken
  split at taken
  · contradiction
  · split at taken
    · contradiction
    · split at taken
      · cases taken
        rfl
      · contradiction

/-- Whoever leaves the surveyor alone has only to account for the batches. -/
theorem proceeds_of_surveyor_eq (orderly : Orderly app.surveyor) (working : Working app.surveyor)
    {after : App} (attempts : after.attempts = app.attempts)
    (surveyor : after.surveyor = app.surveyor) (moves : Moves app (after, [])) :
    Proceeds app (after, []) where
  attempts := attempts
  keeps := by
    rw [surveyor]
    exact .refl orderly
  working := by
    rw [surveyor]
    exact working
  moves := moves
  hands := by
    intro ticket batch hands
    left
    rw [surveyor]
    exact hands

/-- A worker that is told what became of its batch lets its request go. -/
theorem hands_of_gone {after : App} {ticket : Nat} {batch : List ResultRecord}
    (hands : app.surveyor.handing = some (ticket, batch)) (gone : ticket ∉ after.surveyor.tickets) :
    ∀ other batchThere, app.surveyor.handing = some (other, batchThere) →
      after.surveyor.handing = some (other, batchThere) ∨ other ∉ after.surveyor.tickets := by
  intro other batchThere handsThere
  rw [hands] at handsThere
  cases handsThere
  exact Or.inr gone

theorem proceeds_wake (orderly : Orderly app.surveyor) (working : Working app.surveyor)
    (now : Moment) (wake : Wake) : Proceeds app (app.wake now wake) := by
  unfold App.wake
  split
  case h_1 free =>
    have labours := Surveyor.labours_resume working now wake free
    exact
      { attempts := rfl
        keeps := Surveyor.keeps_resume orderly now wake
        working := labours.working
        moves := .none labours.unfinished rfl rfl
        hands := by simp [free] }
  case h_2 ticket batch hands =>
    unfold App.deliver
    cases offer : app.delivery.offer batch (app.surveyor.isCancelled ticket) with
    | full => exact proceeds_of_surveyor_eq orderly working rfl rfl (.none unfinished_nil rfl rfl)
    | refused reason =>
        have refused : receipt (.error reason) (.publish batch) = .error reason := rfl
        obtain ⟨labours, gone⟩ := Surveyor.resume_refused orderly working hands now refused
        exact
          { attempts := rfl
            keeps := Surveyor.keeps_resume orderly now _
            working := labours.working
            moves := .none labours.unfinished rfl rfl
            hands := hands_of_gone hands gone }
    | taken delivery =>
        have taken : receipt (.ok ()) (.publish batch) = .ok () := rfl
        obtain ⟨works, told, last, gone⟩ := Surveyor.resume_taken orderly working hands now taken
        exact
          { attempts := rfl
            keeps := Surveyor.keeps_resume orderly now _
            working := works
            moves := .handed ticket batch hands told last gone (batches_of_taken offer) rfl
            hands := hands_of_gone hands gone }

theorem proceeds_reconcile (orderly : Orderly app.surveyor) (working : Working app.surveyor)
    (occasion : Occasion) : Proceeds app (app.reconcileNext occasion.supply occasion.now, []) := by
  unfold App.reconcileNext
  split
  case h_1 => exact proceeds_of_surveyor_eq orderly working rfl rfl (.none unfinished_nil rfl rfl)
  case h_2 batch rest waiting =>
    exact proceeds_of_surveyor_eq orderly working rfl rfl
      (.reconciled occasion batch unfinished_nil waiting rfl)

/-- The worker does not take another request while it hands a batch over. -/
theorem proceeds_take (orderly : Orderly app.surveyor) (working : Working app.surveyor)
    (now : Moment) : Proceeds app (app.moved (app.surveyor.take now)) := by
  have labours := Surveyor.labours_take orderly working now
  exact
    { attempts := rfl
      keeps := Surveyor.keeps_take orderly now
      working := labours.working
      moves := .none labours.unfinished rfl rfl
      hands := by
        intro ticket batch hands
        obtain ⟨job, next, works⟩ := Surveyor.exists_of_handing hands
        have still : app.surveyor.take now = (app.surveyor, []) := by
          simp only [Surveyor.take, works]
        rw [still]
        exact Or.inl hands }

/-- The callers and the timer leave the worker alone. -/
theorem proceeds_aside (orderly : Orderly app.surveyor) (working : Working app.surveyor)
    (turn : Surveyor.Turn) (others : ¬turn.isWork) :
    Proceeds app (app.moved (turn.act app.surveyor)) := by
  have aside := Surveyor.aside_act turn others app.surveyor
  have hands : (turn.act app.surveyor).1.handing = app.surveyor.handing := by
    unfold Surveyor.handing
    rw [aside.worker]
  exact
    { attempts := rfl
      keeps := Surveyor.keeps_act orderly turn
      working := Surveyor.working_of_worker_eq working aside.worker
      moves := .none aside.unfinished rfl rfl
      hands := fun ticket batch handing => Or.inl (hands.trans handing) }

theorem proceeds_act (orderly : Orderly app.surveyor) (working : Working app.surveyor)
    (turn : Turn) : Proceeds app (turn.act app) := by
  cases turn with
  | reconcile occasion => exact proceeds_reconcile orderly working occasion
  | close => exact proceeds_of_surveyor_eq orderly working rfl rfl (.none unfinished_nil rfl rfl)
  | survey turn =>
      by_cases work : turn.isWork
      · cases turn
        case take now => exact proceeds_take orderly working now
        case resume now wake => exact proceeds_wake orderly working now wake
        all_goals contradiction
      · cases turn
        case resume now wake => exact absurd rfl work
        all_goals exact proceeds_aside orderly working _ work

end FieldSurvey.App
