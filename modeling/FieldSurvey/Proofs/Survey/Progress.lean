import FieldSurvey.Proofs.Probe.Progress
import FieldSurvey.Proofs.Survey.Advance
import FieldSurvey.Proofs.Survey.Finite

/-!
# Runs come to their end

A run that gets what it waits for has less left to do: it goes on with a part of its program, or
else one of the probes of its scan has come to an end.  A scan has only so many targets, so that
no run goes on for ever.
-/

namespace FieldSurvey

namespace Program

variable {S : Signature} {β : Type}

/-- Whether a program is left of another one once some of its calls were answered. -/
inductive Remains : Program S β → Program S β → Prop
  | replied (request : S.Call) (next : S.Reply request → Program S β) (reply : S.Reply request) :
    Remains (next reply) (.call request next)
  | later {program : Program S β} (request : S.Call) (next : S.Reply request → Program S β)
    (reply : S.Reply request) (remains : Remains program (next reply)) :
    Remains program (.call request next)

theorem wellFounded_remains : WellFounded (@Remains S β) := by
  constructor
  intro program
  induction program with
  | done value => exact ⟨_, fun _ remains => by cases remains⟩
  | call request next ih =>
      constructor
      intro rest remains
      cases remains with
      | replied _ _ reply => exact ih reply
      | later _ _ reply remains => exact (ih reply).inv remains

end Program

/-! ## Runs that wait -/

/-- A step that leaves no more to do than before, and less if what happens was awaited. -/
structure Lowers {α : Type} (less : α → α → Prop) (awaited : Prop) (before after : α) : Prop where
  kept : after = before ∨ less after before
  less : awaited → less after before

theorem Lowers.of_less {α : Type} {less : α → α → Prop} {awaited : Prop} {before after : α}
    (isLess : less after before) : Lowers less awaited before after :=
  ⟨Or.inr isLess, fun _ => isLess⟩

theorem Lowers.still {α : Type} {less : α → α → Prop} {awaited : Prop} (before : α)
    (idle : ¬awaited) : Lowers less awaited before before :=
  ⟨Or.inl rfl, fun happens => absurd happens idle⟩

/-- What is awaited cannot happen again and again. -/
theorem not_lowers_forever {α : Type} {less : α → α → Prop} (wellFounded : WellFounded less)
    (awaited : Nat → Prop) (left : Nat → α)
    (lowers : ∀ moment, Lowers less (awaited moment) (left moment) (left (moment + 1)))
    (often : ∀ moment, ∃ later, moment ≤ later ∧ awaited later) : False := by
  have never : ∀ value moment, left moment = value → False := by
    intro value
    induction value using wellFounded.induction with
    | h value ih =>
        intro moment same
        obtain ⟨later, order, happens⟩ := often moment
        obtain ⟨steps, rfl⟩ := Nat.exists_eq_add_of_le order
        clear order
        -- until it happens there is either no less to do, or less already
        induction steps generalizing moment with
        | zero => exact ih _ (same ▸ (lowers moment).less happens) (moment + 1) rfl
        | succ steps further =>
            rcases (lowers moment).kept with kept | isLess
            · apply further (moment + 1) (kept.trans same)
              rwa [Nat.add_assoc, Nat.add_comm 1 steps]
            · exact ih _ (same ▸ isLess) (moment + 1) rfl
  exact never _ 0 rfl

namespace Survey

open Probe (Pool Scan)
open Time (Timestamp)

/-- Whether a run gets what it waits for.  One that was cancelled need not be answered in all of
its waits. -/
def Activity.Awaits (isCancelled : Bool) (wake : Wake) : Activity → Prop
  | asking _ _ => ∃ answers, wake = .answered answers
  | askingUnlessCancelled _ _ => isCancelled ∨ ∃ answers, wake = .answered answers
  | probing _ _ pool _ => ∃ happening, wake = .happened happening ∧ pool.Awaits happening

/-- How much a waiting run has left to do: its program, and its pool if it has one. -/
def Activity.left (activity : Activity) : Program RunCalls Ending × Nat :=
  (activity.program,
    match activity with
    | .probing _ scan pool _ => pool.left scan.total
    | _ => 0)

/-- Whether one run has less left to do than another. -/
def Less : Program RunCalls Ending × Nat → Program RunCalls Ending × Nat → Prop :=
  Prod.Lex Program.Remains (· < ·)

theorem wellFounded_less : WellFounded Less :=
  Program.wellFounded_remains.prod_lex Nat.lt_wfRel.wf

/-- A waiting run that has finitely many probes ahead of it. -/
structure Activity.Bounded (activity : Activity) : Prop where
  finite : Finite activity.program
  within : ∀ phase scan pool next, activity = .probing phase scan pool next →
    pool.counters.issued ≤ scan.total

variable {now : Timestamp} {isCancelled : Bool} {activity further : Activity}

/-- A run that advances waits in the program that it was given or in what is left of it. -/
theorem remains_of_advance {program : Program RunCalls Ending}
    (waits : (advance now isCancelled program).2 = .waiting further) :
    further.program = program ∨ further.program.Remains program := by
  induction program with
  | done ending => contradiction
  | call request next ih =>
      have onward : ∀ reply, (advance now isCancelled (next reply)).2 = .waiting further →
          further.program.Remains (.call request next) := by
        intro reply waitsThere
        rcases ih reply waitsThere with same | remains
        · rw [same]
          exact .replied request next reply
        · exact .later request next reply remains
      cases request with
      | report event => exact Or.inr (onward () waits)
      | isCancelled => exact Or.inr (onward isCancelled waits)
      | clock => exact Or.inr (onward now waits)
      | ask wait =>
          cases waits
          exact Or.inl rfl
      | askUnlessCancelled wait =>
          unfold advance at waits
          split at waits
          · exact Or.inr (onward .cancelled waits)
          · cases waits
            exact Or.inl rfl
      | probe phase scan =>
          unfold advance at waits
          dsimp only at waits
          split at waits
          · exact Or.inr (onward _ waits)
          · cases waits
            exact Or.inl rfl

/-- A run with finite scans has only so many probes ahead of it when it waits. -/
theorem bounded_of_advance {program : Program RunCalls Ending} (finite : Finite program)
    (waits : (advance now isCancelled program).2 = .waiting further) : further.Bounded := by
  induction program with
  | done ending => contradiction
  | call request next ih =>
      obtain ⟨allowed, rest⟩ := finite
      cases request with
      | report event => exact ih () (rest ()) waits
      | isCancelled => exact ih isCancelled (rest isCancelled) waits
      | clock => exact ih now (rest now) waits
      | ask wait =>
          cases waits
          exact ⟨⟨allowed, rest⟩, by simp⟩
      | askUnlessCancelled wait =>
          unfold advance at waits
          split at waits
          · exact ih .cancelled (rest .cancelled) waits
          · cases waits
            exact ⟨⟨allowed, rest⟩, by simp⟩
      | probe phase scan =>
          unfold advance at waits
          dsimp only at waits
          split at waits
          · exact ih _ (rest _) waits
          · cases waits
            constructor
            · exact ⟨allowed, rest⟩
            · rintro _ _ _ _ ⟨⟩
              exact (Pool.lessens_proceed allowed isCancelled _ (Nat.zero_le _)).within

/-- A step after which a waiting run has no more to do than before, if it still waits. -/
structure Activity.Progresses (before : Activity) (awaited : Prop) (after : Activity) : Prop where
  bounded : after.Bounded
  lowers : Lowers Less awaited before.left after.left

theorem Activity.Progresses.still {awaited : Prop} (bounded : activity.Bounded) (idle : ¬awaited) :
    activity.Progresses awaited activity :=
  ⟨bounded, .still activity.left idle⟩

/-- A run that was answered has less to do than before. -/
theorem progresses_of_advance {awaited : Prop} (call : RunCall)
    {next : call.Reply → Program RunCalls Ending} (reply : call.Reply)
    (same : activity.program = .call call next) (bounded : activity.Bounded)
    (waits : (advance now isCancelled (next reply)).2 = .waiting further) :
    activity.Progresses awaited further := by
  have finite := bounded.finite
  rw [same] at finite
  constructor
  · exact bounded_of_advance (finite.2 reply) waits
  · apply Lowers.of_less
    apply Prod.Lex.left
    rw [same]
    rcases remains_of_advance waits with whole | remains
    · rw [whole]
      exact .replied (S := RunCalls) call next reply
    · exact .later (S := RunCalls) call next reply remains

/-- A run that is woken, and waits again, has no more to do than before, and less if it got what
it had waited for. -/
theorem progresses_of_resume {wake : Wake} (bounded : activity.Bounded)
    (waits : (activity.resume now isCancelled wake).2 = .waiting further) :
    activity.Progresses (activity.Awaits isCancelled wake) further := by
  cases activity with
  | asking wait next =>
      cases wake with
      | answered answers =>
          exact progresses_of_advance (.ask wait) (answers wait) rfl bounded waits
      | happened happening =>
          cases waits
          apply Activity.Progresses.still bounded
          rintro ⟨_, ⟨⟩⟩
  | askingUnlessCancelled wait next =>
      simp only [Activity.resume] at waits
      split at waits
      · exact progresses_of_advance (.askUnlessCancelled wait) .cancelled rfl bounded waits
      case isFalse goesOn =>
        cases wake with
        | answered answers =>
            exact progresses_of_advance (.askUnlessCancelled wait) (.completed (answers wait)) rfl
              bounded waits
        | happened happening =>
            cases waits
            apply Activity.Progresses.still bounded
            rintro (isCancelled | ⟨_, ⟨⟩⟩)
            exact goesOn isCancelled
  | probing phase scan pool next =>
      cases wake with
      | answered answers =>
          cases waits
          apply Activity.Progresses.still bounded
          rintro ⟨_, ⟨⟩, -⟩
      | happened happening =>
          obtain ⟨lessens, less⟩ := Pool.lessens_next bounded.finite.1 isCancelled happening pool
            (bounded.within phase scan pool next rfl)
          simp only [Activity.resume] at waits
          split at waits
          · exact progresses_of_advance (.probe phase scan) _ rfl bounded waits
          · cases waits
            constructor
            · constructor
              · exact bounded.finite
              · rintro _ _ _ _ ⟨⟩
                exact lessens.within
            · constructor
              · rcases Nat.eq_or_lt_of_le lessens.left with same | fewer
                · exact Or.inl (congrArg (Prod.mk _) same)
                · exact Or.inr (Prod.Lex.right _ fewer)
              · rintro ⟨_, ⟨⟩, awaits⟩
                exact Prod.Lex.right _ (less awaits)

/-- The answers where no server is known and every batch is taken. -/
def readyAnswers : (wait : Wait) → wait.Answer
  | .resolve _ => none
  | .reverse _ => none
  | .find _ _ => .ok []
  | .publish _ => .ok ()

end Survey

end FieldSurvey
