import FieldSurvey.Proofs.Program.Monitor
import FieldSurvey.Survey.Run

/-!
# Calls of the parts of a run

Which calls the parts of a run make, whatever they are answered.  What a run does first is to
search for targets: it resolves declared urls, carries out its scans and looks up the names of
what they have found.  Everything else is done without scans.
-/

namespace FieldSurvey.Survey

open Address (Ip Socket)
open Model (Registration)

/-! ## Kinds of calls -/

/-- The events other than those that tell of a target that a scan has found. -/
def Event.isPlain : Event → Prop
  | scanFound _ _ _ => False
  | _ => True

namespace RunCall

/-- The calls that look up the addresses of a name. -/
inductive Resolves : RunCall → Prop
  | resolve (name : String) : Resolves (.ask (.resolve name))

/-- The calls that look up the name of an address. -/
inductive Reverses : RunCall → Prop
  | reverse (ip : Ip) : Reverses (.askUnlessCancelled (.reverse ip))

/-- The calls by which a run searches for targets. -/
inductive Searches (survey : Survey) : RunCall → Prop
  | reports {event : Event} (isPlain : event.isPlain) : Searches survey (.report event)
  | hosts : Searches survey (.probe .hosts survey.hostScan)
  | ports (addresses : List Ip) : Searches survey (.probe .ports (survey.portScan addresses))
  | reverse (ip : Ip) : Searches survey (.askUnlessCancelled (.reverse ip))

/-- The calls other than scans and reports of what they find. -/
def isPlain : RunCall → Prop
  | .probe _ _ => False
  | .report event => event.isPlain
  | _ => True

theorem Resolves.isPlain {call : RunCall} (resolves : call.Resolves) : call.isPlain := by
  cases resolves with
  | resolve name => trivial

theorem Reverses.isPlain {call : RunCall} (reverses : call.Reverses) : call.isPlain := by
  cases reverses with
  | reverse ip => trivial

theorem Reverses.searches {survey : Survey} {call : RunCall} (reverses : call.Reverses) :
    call.Searches survey := by
  cases reverses with
  | reverse ip => exact .reverse ip

end RunCall

/-! ## Targets -/

theorem resolves_firstAddress (names : List String) :
    (firstAddress names).Only RunCall.Resolves := by
  induction names with
  | nil => exact Program.only_done _
  | cons name rest ih =>
      apply Program.Only.bind (Program.only_ask (.resolve name))
      intro addresses
      split
      · exact Program.only_done _
      · exact ih

theorem resolves_addDeclared (isContainer : Bool) (texts : List String) (targets : List Target) :
    (addDeclared isContainer texts targets).Only RunCall.Resolves := by
  induction texts generalizing targets with
  | nil => exact Program.only_done _
  | cons text rest ih =>
      unfold addDeclared
      split
      · exact ih targets
      · apply (resolves_firstAddress _).bind
        intro address
        split
        · exact ih targets
        · exact ih _

theorem reverses_addOpen (sockets : List Socket) (targets : List Target) :
    (addOpen sockets targets).Only RunCall.Reverses := by
  induction sockets generalizing targets with
  | nil => exact Program.only_done _
  | cons socket rest ih =>
      apply Program.only_call (.reverse socket.ip)
      intro outcome
      cases outcome with
      | cancelled => exact Program.only_done _
      | completed name => exact ih _

/-! ## Scans -/

theorem searches_scanHosts (survey : Survey) :
    survey.scanHosts.Only (RunCall.Searches survey) := by
  apply Program.only_call (.reports trivial)
  intro _
  apply Program.only_call .hosts
  intro outcome
  cases outcome with
  | cancelled => exact Program.only_done _
  | completed found => exact Program.only_call (.reports trivial) fun _ => Program.only_done _

theorem searches_scanPorts (survey : Survey) (addresses : List Ip) :
    (survey.scanPorts addresses).Only (RunCall.Searches survey) := by
  apply Program.only_call (.reports trivial)
  intro _
  apply Program.only_call (.ports addresses)
  intro outcome
  cases outcome with
  | cancelled => exact Program.only_done _
  | completed found => exact Program.only_call (.reports trivial) fun _ => Program.only_done _

theorem searches_addScanned (survey : Survey) (targets : List Target) :
    (survey.addScanned targets).Only (RunCall.Searches survey) := by
  unfold addScanned
  split
  · apply survey.searches_scanHosts.bind
    intro outcome
    cases outcome with
    | cancelled => exact Program.only_done _
    | completed addresses =>
        apply (survey.searches_scanPorts addresses).bind
        intro outcome
        cases outcome with
        | cancelled => exact Program.only_done _
        | completed sockets =>
            exact (reverses_addOpen sockets targets).imp fun _ => RunCall.Reverses.searches
  · exact Program.only_done _

/-! ## Calls without scans -/

theorem plain_addDeclared (isContainer : Bool) (texts : List String) (targets : List Target) :
    (addDeclared isContainer texts targets).Only RunCall.isPlain :=
  (resolves_addDeclared isContainer texts targets).imp fun _ => RunCall.Resolves.isPlain

theorem plain_addOpen (sockets : List Socket) (targets : List Target) :
    (addOpen sockets targets).Only RunCall.isPlain :=
  (reverses_addOpen sockets targets).imp fun _ => RunCall.Reverses.isPlain

theorem plain_askTargets (survey : Survey) (total index : Nat) (targets : List Target)
    (collected : List Registration) :
    (survey.askTargets total index targets collected).Only RunCall.isPlain := by
  induction targets generalizing index collected with
  | nil => exact Program.only_done _
  | cons target rest ih =>
      apply Program.only_call trivial
      intro cancelled
      cases cancelled with
      | true => exact Program.only_done _
      | false =>
          apply Program.only_call trivial
          intro _
          apply Program.only_call trivial
          intro outcome
          rcases outcome with (reason | endpoints) | _
          · exact Program.only_call trivial fun _ => ih _ _
          · exact Program.only_call trivial fun _ => ih _ _
          · exact Program.only_done _

theorem plain_askServers (survey : Survey) (targets : List Target) :
    (survey.askServers targets).Only RunCall.isPlain := by
  apply Program.only_call trivial
  intro _
  apply (survey.plain_askTargets _ _ targets _).bind
  intro outcome
  cases outcome with
  | cancelled => exact Program.only_done _
  | completed registrations => exact Program.only_call trivial fun _ => Program.only_done _

theorem plain_publish (survey : Survey) (registrations : List Registration) :
    (survey.publish registrations).Only RunCall.isPlain := by
  apply Program.only_call trivial
  intro now
  apply Program.only_call trivial
  intro receipt
  rcases receipt with reason | _
  · apply Program.only_call trivial
    intro cancelled
    cases cancelled <;> exact Program.only_done _
  · exact Program.only_done _

end FieldSurvey.Survey
