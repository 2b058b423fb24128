import FieldSurvey.Proofs.Survey.Calls

/-!
# What a run gathers

A run asks its targets one after the other and collects the registrations of what they answer.
Whatever its calls are answered, the batch that it publishes is that of the registrations of all
the answers of its targets, in their order.
-/

namespace FieldSurvey.Survey

open Model (DiscoveredEndpoint Registration)

/-- What a run has collected after further targets have answered. -/
def gatheredFrom (survey : Survey) (collected : List Registration)
    (answers : List (Target × List DiscoveredEndpoint)) : List Registration :=
  answers.foldl
    (fun collected answer => collect collected (survey.registrationsAt answer.1 answer.2))
    collected

/-- The registrations that a run gathers from the answers of its targets. -/
def gathered (survey : Survey) (answers : List (Target × List DiscoveredEndpoint)) :
    List Registration :=
  survey.gatheredFrom [] answers

/-- The answers of targets among the replies to calls. -/
def answersOf : (call : RunCall) → call.Reply → List (Target × List DiscoveredEndpoint)
  | .askUnlessCancelled (.find target _), .completed (.ok endpoints) => [(target, endpoints)]
  | _, _ => []

/-- A monitor that lists the answers of targets, and allows no batch but that of what was gathered
from them. -/
def gatheringMonitor (survey : Survey) :
    Monitor RunCalls (List (Target × List DiscoveredEndpoint)) where
  allows answers call :=
    match call with
    | .ask (.publish results) => ∃ now, results = batch survey.plan now (survey.gathered answers)
    | _ => True
  next answers call reply := answers ++ answersOf call reply

section Gathering

variable {β : Type} {survey : Survey} {answers : List (Target × List DiscoveredEndpoint)}

/-- Whether a program publishes nothing and asks no targets. -/
def Quiet (survey : Survey) (program : Program RunCalls β) : Prop :=
  ∀ answers, program.Follows survey.gatheringMonitor (fun _ reached => reached = answers) answers

/-- A program is quiet if it keeps to calls that no target answers, and publishes nothing. -/
theorem Quiet.of_only {allowed : RunCall → Prop} {program : Program RunCalls β}
    (only : program.Only allowed)
    (mayCall : ∀ answers call, allowed call → survey.gatheringMonitor.allows answers call)
    (unanswered : ∀ call reply, allowed call → answersOf call reply = []) :
    Quiet survey program := by
  intro answers
  refine only.follows (· = answers) rfl ?_
  rintro answers call rfl isAllowed
  refine ⟨mayCall answers call isAllowed, fun reply => ?_⟩
  change answers ++ answersOf call reply = answers
  rw [unanswered call reply isAllowed, List.append_nil]

theorem quiet_ask {call : RunCall}
    (mayCall : ∀ answers, survey.gatheringMonitor.allows answers call)
    (unanswered : ∀ reply, answersOf call reply = []) :
    Quiet survey (Program.ask (S := RunCalls) call) := by
  have only : (Program.ask (S := RunCalls) call).Only (· = call) := Program.only_ask rfl
  apply Quiet.of_only only
  · rintro answers _ rfl
    exact mayCall answers
  · rintro _ reply rfl
    exact unanswered reply

theorem quiet_report (event : Event) : Quiet survey (report event) :=
  quiet_ask (fun _ => trivial) fun _ => rfl

theorem quiet_isCancelled : Quiet survey isCancelled :=
  quiet_ask (fun _ => trivial) fun _ => rfl

theorem quiet_clock : Quiet survey clock :=
  quiet_ask (fun _ => trivial) fun _ => rfl

/-! ## Finding targets -/

theorem quiet_addDeclared (isContainer : Bool) (texts : List String) (targets : List Target) :
    Quiet survey (addDeclared isContainer texts targets) := by
  apply Quiet.of_only (resolves_addDeclared isContainer texts targets)
  · rintro answers _ ⟨name⟩
    trivial
  · rintro _ reply ⟨name⟩
    rfl

theorem quiet_addScanned (targets : List Target) : Quiet survey (survey.addScanned targets) := by
  apply Quiet.of_only (survey.searches_addScanned targets)
  · intro answers call searches
    cases searches <;> trivial
  · intro call reply searches
    cases searches <;> rfl

/-! ## Asking targets -/

theorem gatheredFrom_append (collected : List Registration)
    (front back : List (Target × List DiscoveredEndpoint)) :
    survey.gatheredFrom collected (front ++ back) =
      survey.gatheredFrom (survey.gatheredFrom collected front) back :=
  List.foldl_append

/-- Whether the registrations of an outcome are those of all the answers. -/
def Gathers (survey : Survey) (outcome : Probe.Outcome (List Registration))
    (answers : List (Target × List DiscoveredEndpoint)) : Prop :=
  ∀ registrations, outcome = .completed registrations → registrations = survey.gathered answers

theorem gathers_cancelled (answers : List (Target × List DiscoveredEndpoint)) :
    Gathers survey .cancelled answers := by
  intro registrations completed
  contradiction

theorem gathers_completed (answers : List (Target × List DiscoveredEndpoint)) :
    Gathers survey (.completed (survey.gathered answers)) answers := by
  intro registrations completed
  exact (Probe.Outcome.completed.inj completed).symm

theorem gathers_askTargets (total index : Nat) (targets : List Target)
    (answers : List (Target × List DiscoveredEndpoint)) :
    (survey.askTargets total index targets (survey.gathered answers)).Follows
      survey.gatheringMonitor (Gathers survey) answers := by
  induction targets generalizing index answers with
  | nil => exact Program.follows_done (gathers_completed answers)
  | cons target rest ih =>
      apply (quiet_isCancelled answers).bind
      rintro cancelled current rfl
      cases cancelled with
      | true => exact Program.follows_done (gathers_cancelled current)
      | false =>
          apply (quiet_report _ current).bind
          rintro _ current rfl
          apply Program.follows_call trivial
          intro outcome
          rcases outcome with (reason | endpoints) | _
          · change Program.Follows _ _ _ (current ++ [])
            rw [List.append_nil]
            apply (quiet_report _ current).bind
            rintro _ current rfl
            exact ih (index + 1) current
          · apply (quiet_report _ (current ++ [(target, endpoints)])).bind
            rintro _ _ rfl
            have asked := ih (index + 1) (current ++ [(target, endpoints)])
            rw [gathered, gatheredFrom_append] at asked
            exact asked
          · exact Program.follows_done (gathers_cancelled _)

theorem gathers_askServers (targets : List Target) :
    (survey.askServers targets).Follows survey.gatheringMonitor (Gathers survey) [] := by
  apply (quiet_report _ []).bind
  rintro _ _ rfl
  apply (gathers_askTargets targets.length 0 targets []).bind
  intro outcome answers gathers
  cases outcome with
  | cancelled => exact Program.follows_done (gathers_cancelled answers)
  | completed registrations =>
      apply (quiet_report _ answers).bind
      rintro _ answers rfl
      exact Program.follows_done gathers

/-! ## Publishing -/

theorem gathers_publish (answers : List (Target × List DiscoveredEndpoint)) :
    (survey.publish (survey.gathered answers)).Follows survey.gatheringMonitor
      (fun _ _ => True) answers := by
  apply (quiet_clock answers).bind
  rintro now answers rfl
  apply Program.follows_call
  · exact ⟨now, rfl⟩
  · rintro (reason | _)
    · apply (quiet_isCancelled _).bind
      rintro cancelled _ rfl
      cases cancelled <;> exact Program.follows_done trivial
    · exact Program.follows_done trivial

theorem gathers_carryOut :
    survey.carryOut.Follows survey.gatheringMonitor (fun _ _ => True) [] := by
  apply (quiet_addDeclared _ _ _ []).bind
  rintro targets _ rfl
  apply (quiet_isCancelled []).bind
  rintro cancelled _ rfl
  cases cancelled with
  | true => exact Program.follows_done trivial
  | false =>
      apply (quiet_addScanned targets []).bind
      rintro outcome _ rfl
      cases outcome with
      | cancelled => exact Program.follows_done trivial
      | completed targets =>
          apply (gathers_askServers targets).bind
          intro outcome answers gathers
          cases outcome with
          | cancelled => exact Program.follows_done trivial
          | completed registrations =>
              rw [gathers registrations rfl]
              exact gathers_publish answers

end Gathering

/-- The batch that a run publishes is that of what it has gathered. -/
theorem run_publishes_gathered (survey : Survey) :
    survey.run.Follows survey.gatheringMonitor (fun _ _ => True) [] := by
  apply (quiet_isCancelled []).bind
  rintro cancelled _ rfl
  cases cancelled with
  | true =>
      apply (quiet_report _ []).bind
      rintro _ _ rfl
      exact Program.follows_done trivial
  | false =>
      apply (quiet_report _ []).bind
      rintro _ _ rfl
      apply gathers_carryOut.bind
      intro ending answers _
      apply (quiet_report _ answers).bind
      rintro _ _ rfl
      exact Program.follows_done trivial

end FieldSurvey.Survey
