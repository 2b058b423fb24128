import FieldSurvey.Proofs.Probe.Course
import FieldSurvey.Proofs.Survey.Candour

/-!
# Candid runs between waits

Whether a run is cancelled does not change while it advances from one wait to the next.  So what
it believes is so, and what it tells at the end of a step is warranted: it has finished only if
its batch was taken, was cancelled only if it is, and failed only if it is not.
-/

namespace FieldSurvey.Survey

open Model (ProgressKind ResultRecord)
open Probe (Outcome Pool)
open Time (Timestamp)

/-- Whether what a run believes is so. -/
def Belief.Agrees (isCancelled : Bool) : Belief → Prop
  | clear => isCancelled = false
  | dismissed => isCancelled = true
  | failing => isCancelled = false
  | _ => True

/-- The batch that a run waits to hand over. -/
def Activity.batch? : Activity → Option (List ResultRecord)
  | asking (.publish batch) _ => some batch
  | _ => none

/-- Whether a run is to find itself cancelled when its pool is done. -/
def Activity.hasNoticed : Activity → Bool
  | probing _ _ pool _ => pool.isCancelled
  | _ => false

/-- A candid run that waits. -/
structure Activity.Candid (isCancelled : Bool) (activity : Activity) : Prop where
  believes : ∃ belief, activity.program.Follows beliefMonitor Admits belief
  noticed : activity.hasNoticed → isCancelled = true

/-- Whether a run may end in some way. -/
def Ending.Warranted (isCancelled : Bool) (belief : Belief) : Ending → Prop
  | finished records => belief = .handed records
  | cancelled => isCancelled = true
  | failed _ => isCancelled = false

/-- A step of a candid run.  It tells of an ending only if it ends, and begins to hand a batch
over only if it is not cancelled. -/
inductive CandidStep (isCancelled : Bool) (belief : Belief) : List Event × Status → Prop
  | waits {events : List Event} {activity : Activity}
      (quiet : ∀ event ∈ events, event.ending? = none) (candid : activity.Candid isCancelled)
      (free : isCancelled = true → activity.batch? = none) :
      CandidStep isCancelled belief (events, .waiting activity)
  | ends {events : List Event} {ending : Ending}
      (quiet : ∀ event ∈ events, event.ending? = none)
      (warranted : ending.Warranted isCancelled belief) :
      CandidStep isCancelled belief (events ++ [ending.event], .ended ending)

variable {isCancelled : Bool} {belief : Belief}

/-! ## What ends a request -/

theorem not_isTerminal_of_ending? {event : Event} (notLast : event.ending? = none) :
    ¬event.kind.isTerminal := by
  cases event with
  | finished records => contradiction
  | cancelled => contradiction
  | failed reason => contradiction
  | scanStarted phase workers total => cases phase <;> exact Bool.false_ne_true
  | scanFound phase item counters => cases phase <;> exact Bool.false_ne_true
  | scanProgress phase counters => cases phase <;> exact Bool.false_ne_true
  | scanFinished phase total found => cases phase <;> exact Bool.false_ne_true
  | _ => exact Bool.false_ne_true

theorem isTerminal_event (ending : Ending) : ending.event.kind.isTerminal := by
  cases ending <;> rfl

/-- What is told that ends nothing. -/
theorem not_isTerminal_of_mem_map {events : List Event}
    (quiet : ∀ event ∈ events, event.ending? = none) {kind : ProgressKind}
    (member : kind ∈ events.map Event.kind) : ¬kind.isTerminal := by
  obtain ⟨event, inEvents, rfl⟩ := List.mem_map.mp member
  exact not_isTerminal_of_ending? (quiet event inEvents)

/-- Nothing that ends a request is told of it but its ending. -/
theorem eq_of_mem_kinds {events : List Event} {ending : Ending}
    (quiet : ∀ event ∈ events, event.ending? = none) {kind : ProgressKind}
    (member : kind ∈ (events ++ [ending.event]).map Event.kind) (ends : kind.isTerminal) :
    ending.event.kind = kind := by
  rw [List.map_append, List.mem_append] at member
  rcases member with early | last
  · exact absurd ends (not_isTerminal_of_mem_map quiet early)
  · exact (List.mem_singleton.mp last).symm

/-! ## Steps -/

namespace CandidStep

variable {step : List Event × Status}

theorem cons {event : Event} (notLast : event.ending? = none)
    (candid : CandidStep isCancelled belief step) :
    CandidStep isCancelled belief (event :: step.1, step.2) := by
  cases candid with
  | waits quiet candid free =>
      exact .waits (List.forall_mem_cons.mpr ⟨notLast, quiet⟩) candid free
  | @ends events ending quiet warranted =>
      have all : ∀ other ∈ event :: events, other.ending? = none :=
        List.forall_mem_cons.mpr ⟨notLast, quiet⟩
      exact .ends all warranted

theorem append {events : List Event} (notLast : ∀ event ∈ events, event.ending? = none)
    (candid : CandidStep isCancelled belief step) :
    CandidStep isCancelled belief (events ++ step.1, step.2) := by
  induction events with
  | nil => exact candid
  | cons event rest ih =>
      obtain ⟨first, others⟩ := List.forall_mem_cons.mp notLast
      exact (ih others).cons first

/-- What a run believed before it learned something does not matter. -/
theorem of_learned {learned : Belief} (apart : ∀ endpoints, learned ≠ .handed endpoints)
    (candid : CandidStep isCancelled learned step) : CandidStep isCancelled belief step := by
  cases candid with
  | waits quiet candid free => exact .waits quiet candid free
  | @ends events ending quiet warranted =>
      refine .ends quiet ?_
      cases ending with
      | finished records => exact absurd warranted (apart records)
      | cancelled => exact warranted
      | failed reason => exact warranted

/-- A run that finishes is told how many endpoints it has handed over. -/
theorem events_of_finished {endpoints : Nat}
    (candid : CandidStep isCancelled (.handed endpoints) step)
    (kinds : step.1.map Event.kind = [.finished]) : step.1 = [.finished endpoints] := by
  cases candid with
  | @waits events activity quiet candid free =>
      have told : ProgressKind.finished ∈ events.map Event.kind := by
        rw [kinds]
        exact List.mem_singleton_self _
      exact absurd rfl (not_isTerminal_of_mem_map quiet told)
  | @ends events ending quiet warranted =>
      rw [List.map_append, List.map_singleton, List.append_eq_singleton_iff] at kinds
      rcases kinds with ⟨nothing, isFinished⟩ | ⟨-, none⟩
      · rw [List.map_eq_nil_iff.mp nothing]
        cases ending with
        | finished records =>
            cases warranted
            rfl
        | cancelled => simp [Ending.event, Event.kind] at isFinished
        | failed reason => simp [Ending.event, Event.kind] at isFinished
      · contradiction

end CandidStep

/-! ## Advancing -/

/-- A run that has told of its ending does nothing more. -/
theorem eq_done_of_closed {program : Program RunCalls Ending} {ending : Ending}
    (follows : program.Follows beliefMonitor Admits (.closed ending)) : program = .done ending := by
  cases program with
  | done value =>
      cases follows
      rfl
  | call request next => exact absurd rfl follows.1.1

theorem Belief.agrees_look (isCancelled : Bool) (belief : Belief) :
    (belief.look isCancelled).Agrees isCancelled := by
  cases isCancelled <;> cases belief <;> rfl

theorem Belief.look_ne_handed (isCancelled : Bool) (belief : Belief) (endpoints : Nat) :
    belief.look isCancelled ≠ .handed endpoints := by
  cases isCancelled <;> cases belief <;> simp [look]

theorem Belief.not_isClosed_look (isCancelled : Bool) (belief : Belief) :
    ¬(belief.look isCancelled).isClosed := by
  cases isCancelled <;> cases belief <;> exact Bool.false_ne_true

theorem Belief.not_isClosed_ofOutcome {α : Type} (outcome : Outcome α) :
    ¬(ofOutcome outcome).isClosed := by
  cases outcome <;> exact Bool.false_ne_true

theorem Belief.agrees_outcome {τ : Type} {pool : Pool τ} (same : pool.isCancelled = isCancelled) :
    (ofOutcome pool.outcome).Agrees isCancelled := by
  unfold Pool.outcome
  rw [same]
  cases isCancelled <;> rfl

theorem Belief.ofOutcome_ne_handed {α : Type} (outcome : Outcome α) (endpoints : Nat) :
    ofOutcome outcome ≠ .handed endpoints := by
  cases outcome <;> simp [ofOutcome]

theorem Belief.warranted_of_permits {ending : Ending} (agrees : belief.Agrees isCancelled)
    (permits : belief.Permits ending) : ending.Warranted isCancelled belief := by
  cases ending <;> cases belief <;> first | contradiction | exact agrees | skip
  exact congrArg Belief.handed permits.symm

theorem ending?_ofReport (phase : Phase) (report : Probe.Report phase.Item) :
    (Event.ofReport phase report).ending? = none := by
  cases report <;> rfl

/-- A candid run takes candid steps. -/
theorem advance_candid (now : Timestamp) {program : Program RunCalls Ending}
    (follows : program.Follows beliefMonitor Admits belief) (agrees : belief.Agrees isCancelled)
    (goesOn : ¬belief.isClosed) :
    CandidStep isCancelled belief (advance now isCancelled program) := by
  induction program generalizing belief with
  | done ending =>
      rw [follows] at goesOn
      exact absurd rfl goesOn
  | call request next ih =>
      obtain ⟨⟨_, allowed⟩, rest⟩ := follows
      cases request with
      | report event =>
          have onward := rest ()
          cases last : event.ending? with
          | none =>
              simp only [beliefMonitor, Belief.learn, last, Option.elim_none] at onward
              exact (ih () onward agrees goesOn).cons last
          | some ending =>
              simp only [beliefMonitor, Belief.learn, last, Option.elim_some] at onward
              have warranted := Belief.warranted_of_permits agrees (allowed ending last)
              have told : advance now isCancelled (.call (.report event) next) =
                  ([] ++ [ending.event], .ended ending) := by
                rw [advance, eq_done_of_closed onward, event_eq_of_ending? last]
                rfl
              rw [told]
              exact .ends (by simp) warranted
      | isCancelled =>
          have looked := ih isCancelled (rest isCancelled) (belief.agrees_look isCancelled)
            (belief.not_isClosed_look isCancelled)
          exact looked.of_learned (belief.look_ne_handed isCancelled)
      | clock => exact ih now (rest now) agrees goesOn
      | ask wait =>
          refine .waits (by simp)
            ⟨⟨belief, ⟨goesOn, allowed⟩, rest⟩, by simp [Activity.hasNoticed]⟩ ?_
          intro cancelled
          cases wait with
          | publish batch =>
              have clear : belief = .clear := allowed rfl
              rw [clear] at agrees
              exact absurd (agrees.symm.trans cancelled) Bool.false_ne_true
          | resolve name => rfl
          | reverse ip => rfl
          | find target locales => rfl
      | askUnlessCancelled wait =>
          unfold advance
          split
          case isTrue cancelled =>
            have dismissed := ih _ (rest .cancelled) cancelled Bool.false_ne_true
            exact dismissed.of_learned
              (Belief.ofOutcome_ne_handed (.cancelled : Outcome wait.Answer))
          case isFalse =>
            exact .waits (by simp)
              ⟨⟨belief, ⟨goesOn, allowed⟩, rest⟩, by simp [Activity.hasNoticed]⟩ fun _ => rfl
      | probe phase scan =>
          have same := Pool.isCancelled_proceed scan.targets isCancelled
            (Pool.start scan.config scan.total)
          simp only [Pool.start, Bool.false_or] at same
          unfold advance
          dsimp only
          split
          case isTrue =>
            refine CandidStep.cons (ending?_ofReport phase _) ?_
            have learned := ih _ (rest _) (Belief.agrees_outcome same)
              (Belief.not_isClosed_ofOutcome _)
            exact learned.of_learned (Belief.ofOutcome_ne_handed _)
          case isFalse =>
            refine .waits (by simp) ⟨⟨belief, ⟨goesOn, allowed⟩, rest⟩, ?_⟩ fun _ => rfl
            exact fun noticed => same.symm.trans noticed

/-! ## Waking -/

/-- What a run believes once it has heard what became of its batch. -/
def Activity.heard (wake : Wake) : Activity → Belief
  | asking wait _ =>
    match wake with
    | .answered answers => .ofAnswer wait (answers wait)
    | .happened _ => .unsure
  | _ => .unsure

theorem Belief.agrees_ofAnswer (wait : Wait) (answer : wait.Answer) :
    (ofAnswer wait answer).Agrees isCancelled := by
  unfold ofAnswer
  split <;> trivial

theorem Belief.not_isClosed_ofAnswer (wait : Wait) (answer : wait.Answer) :
    ¬(ofAnswer wait answer).isClosed := by
  unfold ofAnswer
  split <;> exact Bool.false_ne_true

/-- A candid run that is woken takes a candid step, or is not concerned. -/
theorem resume_candid (now : Timestamp) {activity : Activity}
    (candid : activity.Candid isCancelled) (wake : Wake) :
    activity.resume now isCancelled wake = ([], .waiting activity) ∨
      CandidStep isCancelled (activity.heard wake) (activity.resume now isCancelled wake) := by
  obtain ⟨⟨belief, follows⟩, noticed⟩ := candid
  cases activity with
  | asking wait next =>
      cases wake with
      | happened happening => exact Or.inl rfl
      | answered answers =>
          exact Or.inr (advance_candid now (follows.2 (answers wait))
            (Belief.agrees_ofAnswer wait _) (Belief.not_isClosed_ofAnswer wait _))
  | askingUnlessCancelled wait next =>
      unfold Activity.resume
      dsimp only
      split
      case isTrue cancelled =>
        have dismissed := advance_candid now (follows.2 .cancelled) cancelled Bool.false_ne_true
        exact Or.inr (dismissed.of_learned
          (Belief.ofOutcome_ne_handed (.cancelled : Outcome wait.Answer)))
      case isFalse clear =>
        cases wake with
        | happened happening => exact Or.inl rfl
        | answered answers =>
            have learned := advance_candid now (follows.2 (.completed (answers wait)))
              (Bool.eq_false_iff.mpr clear) Bool.false_ne_true
            exact Or.inr (learned.of_learned
              (Belief.ofOutcome_ne_handed (.completed (answers wait))))
  | probing phase scan pool next =>
      cases wake with
      | answered answers => exact Or.inl rfl
      | happened happening =>
          have same : (pool.next scan.targets isCancelled happening).1.isCancelled =
              isCancelled := by
            rw [Pool.next_eq, Pool.isCancelled_proceed, (Pool.heeds_heed _ _).isCancelled]
            cases earlier : pool.isCancelled with
            | false => rfl
            | true => exact (noticed earlier).symm
          have quiet : ∀ event ∈ (pool.next scan.targets isCancelled happening).2.map
              (Event.ofReport phase), event.ending? = none := by
            intro event member
            obtain ⟨report, -, rfl⟩ := List.mem_map.mp member
            exact ending?_ofReport phase report
          right
          unfold Activity.resume
          dsimp only
          split
          case isTrue =>
            have learned := advance_candid now (follows.2 _) (Belief.agrees_outcome same)
              (Belief.not_isClosed_ofOutcome _)
            have apart := Belief.ofOutcome_ne_handed
              (pool.next scan.targets isCancelled happening).1.outcome
            exact ((learned.of_learned apart).cons (ending?_ofReport phase _)).append quiet
          case isFalse =>
            refine .waits quiet ⟨⟨belief, follows⟩, ?_⟩ fun _ => rfl
            exact fun later => same.symm.trans later

end FieldSurvey.Survey
