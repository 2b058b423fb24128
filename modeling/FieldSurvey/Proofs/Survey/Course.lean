import FieldSurvey.Proofs.Program.Run
import FieldSurvey.Proofs.Survey.Calls
import FieldSurvey.Proofs.Survey.Protocol

/-!
# The course of a run

A run keeps to the protocol, whatever it is answered: it tells of an event only where
the protocol has it, probes only between the start and the end of a scan, publishes once
and only after all servers were asked, and waits for nothing once its results were taken
or refused.
-/

namespace FieldSurvey.Survey

open Model (ProgressKind Registration)
open Probe (Outcome Scan)

/-- Whether a run may still wait. -/
def Stage.isOpen : Stage → Bool
  | .handed | .refused => false
  | _ => true

/-- Whether a request runs and may still wait. -/
def Position.isOpen : Position → Bool
  | .running stage => stage.isOpen
  | _ => false

/-- Whether the results of a run are handed over. -/
def Wait.isPublish : Wait → Bool
  | .publish _ => true
  | _ => false

/-- The calls that a run may make in a position. -/
def allowed (isScanning : Bool) (position : Position) : RunCall → Prop
  | .report event => (position.tell isScanning event).isSome
  | .isCancelled | .clock => True
  | .ask wait => if wait.isPublish then position = .running .surveyed else position.isOpen
  | .askUnlessCancelled wait => ¬wait.isPublish ∧ position.isOpen
  | .probe phase _ => position = .running (.probing phase)

/-- The position of a run after the answer to a wait. -/
def Position.answered (position : Position) : (wait : Wait) → wait.Answer → Position
  | .publish _, .ok _ => .running .handed
  | .publish _, .error _ => .running .refused
  | _, _ => position

/-- The position of a run after a reply. -/
def replied (isScanning : Bool) (position : Position) :
    (request : RunCall) → RunCalls.Reply request → Position
  | .report event, _ => (position.tell isScanning event).getD position
  | .ask wait, answer => position.answered wait answer
  | _, _ => position

/-- The protocol as a monitor. -/
def courseMonitor (isScanning : Bool) : Monitor RunCalls Position where
  allows := allowed isScanning
  next := replied isScanning

/-- A run ends with the ending that was told last. -/
def EndsIn (ending : Ending) (position : Position) : Prop :=
  position = .ended ending

/-- Whether a cancellation may be told. -/
def Position.MayCancel (position : Position) : Prop :=
  ∃ stage, position = .running stage ∧ stage ≠ .handed

/-- A part of a run either comes to a stage or was cancelled on the way. -/
def ComesTo {α : Type} (stage : Stage) (outcome : Outcome α) (position : Position) : Prop :=
  match outcome with
  | .completed _ => position = .running stage
  | .cancelled => position.MayCancel

/-! ## Single calls -/

section Calls

variable {isScanning : Bool} {position next : Position}

theorem mayCancel_of_isOpen (isOpen : position.isOpen) : position.MayCancel := by
  cases position with
  | running stage => exact ⟨stage, rfl, by rintro rfl; contradiction⟩
  | waiting => contradiction
  | ended ending => contradiction

theorem follows_report {event : Event} (leads : position.tell isScanning event = some next) :
    (report event).Follows (courseMonitor isScanning) (fun _ reached => reached = next)
      position := by
  refine Program.follows_call ?_ fun _ => ?_
  · simp [courseMonitor, allowed, leads]
  · exact Program.follows_done (by simp [courseMonitor, replied, leads])

theorem follows_isCancelled :
    isCancelled.Follows (courseMonitor isScanning) (fun _ reached => reached = position)
      position :=
  Program.follows_call trivial fun _ => Program.follows_done rfl

theorem follows_clock :
    clock.Follows (courseMonitor isScanning) (fun _ reached => reached = position) position :=
  Program.follows_call trivial fun _ => Program.follows_done rfl

theorem answered_of_not_isPublish {wait : Wait} (notPublish : ¬wait.isPublish)
    (answer : wait.Answer) : position.answered wait answer = position := by
  cases wait with
  | publish batch => exact absurd rfl notPublish
  | resolve name => rfl
  | reverse ip => rfl
  | find target locales => rfl

theorem follows_askUnlessCancelled {wait : Wait} (notPublish : ¬wait.isPublish)
    (isOpen : position.isOpen) :
    (askUnlessCancelled wait).Follows (courseMonitor isScanning)
      (fun _ reached => reached = position) position :=
  Program.follows_call ⟨notPublish, isOpen⟩ fun _ => Program.follows_done rfl

theorem follows_probe (phase : Phase) (scan : Scan phase.Item) :
    (probe phase scan).Follows (courseMonitor isScanning)
      (fun _ reached => reached = .running (.probing phase)) (.running (.probing phase)) :=
  Program.follows_call rfl fun _ => Program.follows_done rfl

/-! ## Looking for targets -/

theorem follows_addDeclared (isOpen : position.isOpen) (isContainer : Bool)
    (texts : List String) (targets : List Target) :
    (addDeclared isContainer texts targets).Follows (courseMonitor isScanning)
      (fun _ reached => reached = position) position := by
  apply (resolves_addDeclared isContainer texts targets).follows (· = position) rfl
  rintro _ _ rfl ⟨name⟩
  exact ⟨isOpen, fun _ => rfl⟩

theorem follows_addOpen (sockets : List Address.Socket) (targets : List Target) {stage : Stage}
    (isOpen : stage.isOpen) :
    (addOpen sockets targets).Follows (courseMonitor isScanning) (ComesTo stage)
      (.running stage) := by
  induction sockets generalizing targets with
  | nil => exact Program.follows_done rfl
  | cons socket rest ih =>
      have running : (Position.running stage).isOpen := isOpen
      apply (follows_askUnlessCancelled (by simp [Wait.isPublish]) running).bind
      rintro outcome _ rfl
      cases outcome with
      | cancelled => exact Program.follows_done (mayCancel_of_isOpen running)
      | completed name => exact ih _

end Calls

/-! ## The parts of a run -/

theorem follows_scanHosts (survey : Survey) :
    survey.scanHosts.Follows (courseMonitor true) (ComesTo (.probed .hosts))
      (.running .begun) := by
  apply (follows_report rfl).bind
  rintro _ _ rfl
  apply (follows_probe .hosts _).bind
  rintro outcome _ rfl
  cases outcome with
  | cancelled => exact Program.follows_done (mayCancel_of_isOpen rfl)
  | completed found =>
      apply (follows_report rfl).bind
      intro _ _ same
      exact Program.follows_done same

theorem follows_scanPorts (survey : Survey) (addresses : List Address.Ip) :
    (survey.scanPorts addresses).Follows (courseMonitor true) (ComesTo (.probed .ports))
      (.running (.probed .hosts)) := by
  apply (follows_report rfl).bind
  rintro _ _ rfl
  apply (follows_probe .ports _).bind
  rintro outcome _ rfl
  cases outcome with
  | cancelled => exact Program.follows_done (mayCancel_of_isOpen rfl)
  | completed found =>
      apply (follows_report rfl).bind
      intro _ _ same
      exact Program.follows_done same

/-- Where a run stands when it begins to ask servers. -/
def afterScans (isScanning : Bool) : Stage :=
  if isScanning then .probed .ports else .begun

theorem follows_addScanned (survey : Survey) (targets : List Target) :
    (survey.addScanned targets).Follows (courseMonitor survey.plan.mode.isScanning)
      (ComesTo (afterScans survey.plan.mode.isScanning)) (.running .begun) := by
  unfold addScanned
  cases scans : survey.plan.mode.isScanning with
  | false => exact Program.follows_done rfl
  | true =>
      apply survey.follows_scanHosts.bind
      intro outcome _ reached
      cases outcome with
      | cancelled => exact Program.follows_done reached
      | completed addresses =>
          subst reached
          apply (survey.follows_scanPorts addresses).bind
          intro outcome _ reached
          cases outcome with
          | cancelled => exact Program.follows_done reached
          | completed sockets =>
              subst reached
              exact follows_addOpen sockets targets rfl

theorem follows_askTargets {isScanning : Bool} (survey : Survey) (total index : Nat)
    (targets : List Target) (collected : List Registration) :
    (survey.askTargets total index targets collected).Follows (courseMonitor isScanning)
      (ComesTo .asking) (.running .asking) := by
  induction targets generalizing index collected with
  | nil => exact Program.follows_done rfl
  | cons target rest ih =>
      apply follows_isCancelled.bind
      rintro cancelled _ rfl
      cases cancelled with
      | true => exact Program.follows_done (mayCancel_of_isOpen rfl)
      | false =>
          apply (follows_report rfl).bind
          rintro _ _ rfl
          apply (follows_askUnlessCancelled (by simp [Wait.isPublish]) rfl).bind
          rintro outcome _ rfl
          match outcome with
          | .cancelled => exact Program.follows_done (mayCancel_of_isOpen rfl)
          | .completed (.error reason) =>
              apply (follows_report rfl).bind
              rintro _ _ rfl
              exact ih _ _
          | .completed (.ok endpoints) =>
              apply (follows_report rfl).bind
              rintro _ _ rfl
              exact ih _ _

theorem follows_askServers (survey : Survey) (targets : List Target) {isScanning : Bool} :
    (survey.askServers targets).Follows (courseMonitor isScanning) (ComesTo .surveyed)
      (.running (afterScans isScanning)) := by
  have leads : Position.tell isScanning (.running (afterScans isScanning))
      (.serversStarted targets.length) = some (.running .asking) := by
    cases isScanning <;> rfl
  apply (follows_report leads).bind
  rintro _ _ rfl
  apply (survey.follows_askTargets _ _ targets _).bind
  intro outcome _ reached
  cases outcome with
  | cancelled => exact Program.follows_done reached
  | completed registrations =>
      subst reached
      apply (follows_report rfl).bind
      intro _ _ same
      exact Program.follows_done same

/-- A run is told of an ending that is possible where it stands. -/
def Concludes (isScanning : Bool) (ending : Ending) (position : Position) : Prop :=
  position.tell isScanning ending.event = some (.ended ending)

theorem concludes_cancelled {isScanning : Bool} {position : Position}
    (mayCancel : position.MayCancel) : Concludes isScanning .cancelled position := by
  obtain ⟨stage, rfl, notHanded⟩ := mayCancel
  exact if_neg notHanded

theorem follows_publish {isScanning : Bool} (survey : Survey)
    (registrations : List Registration) :
    (survey.publish registrations).Follows (courseMonitor isScanning) (Concludes isScanning)
      (.running .surveyed) := by
  apply follows_clock.bind
  rintro now _ rfl
  apply Program.follows_call rfl
  intro answer
  match answer with
  | .ok () => exact Program.follows_done rfl
  | .error reason =>
      have looks : isCancelled.Follows (courseMonitor isScanning)
          (fun _ reached => reached = .running .refused) (.running .refused) := follows_isCancelled
      apply looks.bind
      rintro cancelled _ rfl
      cases cancelled with
      | true => exact Program.follows_done rfl
      | false => exact Program.follows_done rfl

theorem follows_carryOut (survey : Survey) :
    survey.carryOut.Follows (courseMonitor survey.plan.mode.isScanning)
      (Concludes survey.plan.mode.isScanning) (.running .begun) := by
  apply (follows_addDeclared rfl _ _ _).bind
  rintro targets _ rfl
  apply follows_isCancelled.bind
  rintro cancelled _ rfl
  cases cancelled with
  | true => exact Program.follows_done rfl
  | false =>
      apply (survey.follows_addScanned targets).bind
      intro outcome _ reached
      cases outcome with
      | cancelled => exact Program.follows_done (concludes_cancelled reached)
      | completed targets =>
          subst reached
          apply (survey.follows_askServers targets).bind
          intro outcome _ reached
          cases outcome with
          | cancelled => exact Program.follows_done (concludes_cancelled reached)
          | completed registrations =>
              subst reached
              exact survey.follows_publish registrations

/-- A run keeps to the protocol. -/
theorem follows_run (survey : Survey) :
    survey.run.Follows (courseMonitor survey.plan.mode.isScanning) EndsIn .waiting := by
  apply follows_isCancelled.bind
  rintro cancelled _ rfl
  cases cancelled with
  | true =>
      apply (follows_report rfl).bind
      intro _ _ same
      exact Program.follows_done same
  | false =>
      apply (follows_report rfl).bind
      rintro _ _ rfl
      apply survey.follows_carryOut.bind
      intro ending _ concludes
      apply (follows_report concludes).bind
      intro _ _ same
      exact Program.follows_done same

end FieldSurvey.Survey
