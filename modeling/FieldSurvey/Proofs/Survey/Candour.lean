import FieldSurvey.Proofs.Survey.Conclusion

/-!
# Candid runs

A run looks at whether it is cancelled again and again.  It hands its results over only if it
has just found that it is not cancelled, and it tells that it was cancelled only if it has found
so.  What it is told to have finished with is the number of endpoints in the batch that was
taken.
-/

namespace FieldSurvey.Survey

open Model (ProgressKind Registration ResultRecord)
open Probe (Outcome Pool Scan)
open Time (Timestamp)

/-- What a run knows of its cancellation, and of what became of its batch. -/
inductive Belief where
  | unsure
  /-- it was not cancelled when it last looked -/
  | clear
  | dismissed
  /-- a batch of that many endpoints was taken -/
  | handed (endpoints : Nat)
  /-- its batch was refused -/
  | refused
  /-- its batch was refused, and it was not cancelled -/
  | failing
  /-- it has told of its ending -/
  | closed (ending : Ending)

/-- The ending that an event tells of. -/
def Event.ending? : Event → Option Ending
  | finished records => some (.finished records)
  | cancelled => some .cancelled
  | failed reason => some (.failed reason)
  | _ => none

/-- How many records of a batch are about endpoints. -/
def endpointCount (batch : List ResultRecord) : Nat :=
  batch.countP fun record => record.endpoint.isSome

namespace Belief

def isClosed : Belief → Bool
  | closed _ => true
  | _ => false

/-- Whether a run has not come to its results yet, as far as it knows. -/
def isEarly : Belief → Bool
  | unsure | clear => true
  | _ => false

/-- Whether a run that believes so may tell of an ending. -/
def Permits : Belief → Ending → Prop
  | handed endpoints, .finished records => records = endpoints
  | dismissed, .cancelled => True
  | failing, .failed _ => True
  | _, _ => False

/-- What a run believes once it has looked. -/
def look (cancelled : Bool) : Belief → Belief
  | refused => if cancelled then dismissed else failing
  | _ => if cancelled then dismissed else clear

/-- What a run believes after something that ends early if the run is cancelled. -/
def ofOutcome {α : Type} : Outcome α → Belief
  | .completed _ => clear
  | .cancelled => dismissed

/-- What a run believes after an answer. -/
def ofAnswer : (wait : Wait) → wait.Answer → Belief
  | .publish batch, .ok _ => handed (endpointCount batch)
  | .publish _, .error _ => refused
  | _, _ => unsure

/-- The calls that a run may make. -/
def MayCall (belief : Belief) : RunCall → Prop
  | .report event => ∀ ending, event.ending? = some ending → belief.Permits ending
  | .ask wait => wait.isPublish → belief = clear
  | .askUnlessCancelled wait => ¬wait.isPublish
  | _ => True

/-- What a run believes after a reply. -/
def learn (belief : Belief) : (request : RunCall) → RunCalls.Reply request → Belief
  | .report event, _ => event.ending?.elim belief closed
  | .isCancelled, cancelled => belief.look cancelled
  | .clock, _ => belief
  | .ask wait, answer => ofAnswer wait answer
  | .askUnlessCancelled _, outcome => ofOutcome outcome
  | .probe _ _, outcome => ofOutcome outcome

end Belief

/-- Beliefs as a monitor. -/
def beliefMonitor : Monitor RunCalls Belief where
  allows belief request := ¬belief.isClosed ∧ belief.MayCall request
  next := Belief.learn

/-- A run ends with the ending that it has told of. -/
def Admits (ending : Ending) (belief : Belief) : Prop :=
  belief = .closed ending

/-! ## Single calls -/

variable {belief : Belief}

theorem believes_report {event : Event} (notLast : event.ending? = none) :
    (report event).Follows beliefMonitor (fun _ reached => reached = .clear) .clear := by
  apply Program.follows_call
  · exact ⟨Bool.false_ne_true, fun ending last => by simp [notLast] at last⟩
  · intro _
    exact Program.follows_done (by simp [beliefMonitor, Belief.learn, notLast])

theorem believes_isCancelled (early : belief.isEarly) :
    isCancelled.Follows beliefMonitor
      (fun cancelled reached => reached = if cancelled then .dismissed else .clear) belief := by
  cases belief with
  | unsure =>
      exact Program.follows_call ⟨Bool.false_ne_true, trivial⟩ fun _ => Program.follows_done rfl
  | clear =>
      exact Program.follows_call ⟨Bool.false_ne_true, trivial⟩ fun _ => Program.follows_done rfl
  | _ => contradiction

theorem believes_clock :
    clock.Follows beliefMonitor (fun _ reached => reached = .clear) .clear :=
  Program.follows_call ⟨Bool.false_ne_true, trivial⟩ fun _ => Program.follows_done rfl

theorem believes_askUnlessCancelled {wait : Wait} (notPublish : ¬wait.isPublish) :
    (askUnlessCancelled wait).Follows beliefMonitor
      (fun outcome reached => reached = .ofOutcome outcome) .clear :=
  Program.follows_call ⟨Bool.false_ne_true, notPublish⟩ fun _ => Program.follows_done rfl

theorem believes_probe (phase : Phase) (scan : Scan phase.Item) :
    (probe phase scan).Follows beliefMonitor (fun outcome reached => reached = .ofOutcome outcome)
      .clear :=
  Program.follows_call ⟨Bool.false_ne_true, trivial⟩ fun _ => Program.follows_done rfl

/-! ## The parts of a run -/

theorem not_isClosed_of_isEarly (early : belief.isEarly) : ¬belief.isClosed := by
  cases belief with
  | closed ending => contradiction
  | _ => exact Bool.false_ne_true

theorem believes_addDeclared (early : belief.isEarly) (isContainer : Bool) (texts : List String)
    (targets : List Target) :
    (addDeclared isContainer texts targets).Follows beliefMonitor
      (fun _ reached => reached.isEarly) belief := by
  have resolves := resolves_addDeclared isContainer texts targets
  apply resolves.follows (fun reached : Belief => reached.isEarly) early
  rintro belief _ early ⟨name⟩
  exact ⟨⟨not_isClosed_of_isEarly early, Bool.noConfusion⟩, fun _ => rfl⟩

theorem believes_addOpen (sockets : List Address.Socket) (targets : List Target) :
    (addOpen sockets targets).Follows beliefMonitor
      (fun outcome reached => reached = .ofOutcome outcome) .clear := by
  induction sockets generalizing targets with
  | nil => exact Program.follows_done rfl
  | cons socket rest ih =>
      apply (believes_askUnlessCancelled (by simp [Wait.isPublish])).bind
      rintro outcome _ rfl
      cases outcome with
      | cancelled => exact Program.follows_done rfl
      | completed name => exact ih _

theorem believes_scanHosts (survey : Survey) :
    survey.scanHosts.Follows beliefMonitor (fun outcome reached => reached = .ofOutcome outcome)
      .clear := by
  apply (believes_report rfl).bind
  rintro _ _ rfl
  apply (believes_probe .hosts _).bind
  rintro outcome _ rfl
  cases outcome with
  | cancelled => exact Program.follows_done rfl
  | completed found =>
      apply (believes_report rfl).bind
      rintro _ _ rfl
      exact Program.follows_done rfl

theorem believes_scanPorts (survey : Survey) (addresses : List Address.Ip) :
    (survey.scanPorts addresses).Follows beliefMonitor
      (fun outcome reached => reached = .ofOutcome outcome) .clear := by
  apply (believes_report rfl).bind
  rintro _ _ rfl
  apply (believes_probe .ports _).bind
  rintro outcome _ rfl
  cases outcome with
  | cancelled => exact Program.follows_done rfl
  | completed found =>
      apply (believes_report rfl).bind
      rintro _ _ rfl
      exact Program.follows_done rfl

theorem believes_addScanned (survey : Survey) (targets : List Target) :
    (survey.addScanned targets).Follows beliefMonitor
      (fun outcome reached => reached = .ofOutcome outcome) .clear := by
  unfold addScanned
  split
  · apply survey.believes_scanHosts.bind
    rintro outcome _ rfl
    cases outcome with
    | cancelled => exact Program.follows_done rfl
    | completed addresses =>
        apply (survey.believes_scanPorts addresses).bind
        rintro outcome _ rfl
        cases outcome with
        | cancelled => exact Program.follows_done rfl
        | completed sockets => exact believes_addOpen sockets targets
  · exact Program.follows_done rfl

theorem believes_askTargets (survey : Survey) (total index : Nat) (targets : List Target)
    (collected : List Registration) :
    (survey.askTargets total index targets collected).Follows beliefMonitor
      (fun outcome reached => reached = .ofOutcome outcome) .clear := by
  induction targets generalizing index collected with
  | nil => exact Program.follows_done rfl
  | cons target rest ih =>
      apply (believes_isCancelled rfl).bind
      rintro cancelled _ rfl
      cases cancelled with
      | true => exact Program.follows_done rfl
      | false =>
          apply (believes_report rfl).bind
          rintro _ _ rfl
          apply (believes_askUnlessCancelled (by simp [Wait.isPublish])).bind
          rintro outcome _ rfl
          cases outcome with
          | cancelled => exact Program.follows_done rfl
          | completed answer =>
              cases answer with
              | error reason =>
                  apply (believes_report rfl).bind
                  rintro _ _ rfl
                  exact ih _ _
              | ok endpoints =>
                  apply (believes_report rfl).bind
                  rintro _ _ rfl
                  exact ih _ _

theorem believes_askServers (survey : Survey) (targets : List Target) :
    (survey.askServers targets).Follows beliefMonitor
      (fun outcome reached => reached = .ofOutcome outcome) .clear := by
  apply (believes_report rfl).bind
  rintro _ _ rfl
  apply (survey.believes_askTargets _ _ targets _).bind
  rintro outcome _ rfl
  cases outcome with
  | cancelled => exact Program.follows_done rfl
  | completed registrations =>
      apply (believes_report rfl).bind
      rintro _ _ rfl
      exact Program.follows_done rfl

/-- The endpoints of a batch are those of its registrations. -/
theorem endpointCount_batch (plan : Plan) (now : Timestamp) (registrations : List Registration) :
    endpointCount (batch plan now registrations) = (endpointPairs registrations).length := by
  have each : (records now registrations).countP (fun record => record.endpoint.isSome) =
      (records now registrations).length := by
    apply List.countP_eq_length.mpr
    intro record member
    obtain ⟨pair, -, rfl⟩ := List.mem_map.mp member
    rfl
  have last : (sentinel plan now registrations).endpoint.isSome = false := rfl
  rw [endpointCount, batch, List.countP_append, each]
  simp [records, last]

theorem believes_publish (survey : Survey) (registrations : List Registration) :
    (survey.publish registrations).Follows beliefMonitor
      (fun ending reached => reached.Permits ending) .clear := by
  apply believes_clock.bind
  rintro now _ rfl
  apply Program.follows_call
  · exact ⟨Bool.false_ne_true, fun _ => rfl⟩
  · intro answer
    cases answer with
    | ok value =>
        exact Program.follows_done (endpointCount_batch survey.plan now registrations).symm
    | error reason =>
        apply Program.follows_call
        · exact ⟨Bool.false_ne_true, trivial⟩
        · intro cancelled
          cases cancelled with
          | true => exact Program.follows_done trivial
          | false => exact Program.follows_done trivial

theorem believes_carryOut (survey : Survey) :
    survey.carryOut.Follows beliefMonitor (fun ending reached => reached.Permits ending)
      .clear := by
  apply (believes_addDeclared rfl _ _ _).bind
  intro targets _ early
  apply (believes_isCancelled early).bind
  rintro cancelled _ rfl
  cases cancelled with
  | true => exact Program.follows_done trivial
  | false =>
      apply (survey.believes_addScanned targets).bind
      rintro outcome _ rfl
      cases outcome with
      | cancelled => exact Program.follows_done trivial
      | completed targets =>
          apply (survey.believes_askServers targets).bind
          rintro outcome _ rfl
          cases outcome with
          | cancelled => exact Program.follows_done trivial
          | completed registrations => exact survey.believes_publish registrations

theorem ending?_event (ending : Ending) : ending.event.ending? = some ending := by
  cases ending <;> rfl

theorem event_eq_of_ending? {event : Event} {ending : Ending}
    (last : event.ending? = some ending) : event = ending.event := by
  unfold Event.ending? at last
  split at last
  case h_4 => contradiction
  all_goals
    cases last
    rfl

/-- A run is candid, whatever it is answered. -/
theorem believes_run (survey : Survey) :
    survey.run.Follows beliefMonitor Admits .unsure := by
  have concludes : ∀ {belief : Belief} {ending : Ending}, belief.Permits ending →
      ((report ending.event).bind fun _ => .done ending).Follows beliefMonitor Admits belief := by
    intro belief ending permits
    have goesOn : ¬belief.isClosed := by
      rintro isClosed
      cases belief <;> contradiction
    apply Program.follows_call
    · refine ⟨goesOn, fun other last => ?_⟩
      cases (ending?_event ending).symm.trans last
      exact permits
    · intro _
      apply Program.follows_done
      simp [beliefMonitor, Belief.learn, ending?_event, Admits]
  apply (believes_isCancelled rfl).bind
  rintro cancelled _ rfl
  cases cancelled with
  | true =>
      have permits : Belief.dismissed.Permits .cancelled := trivial
      exact concludes permits
  | false =>
      apply (believes_report rfl).bind
      rintro _ _ rfl
      apply survey.believes_carryOut.bind
      intro ending reached permits
      exact concludes permits

end FieldSurvey.Survey
