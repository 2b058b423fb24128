import FieldSurvey.Proofs.Probe.Progress
import FieldSurvey.Proofs.Probe.Sequence
import FieldSurvey.Proofs.Program.Ensures
import FieldSurvey.Proofs.Program.Run
import FieldSurvey.Proofs.Survey.Calls
import FieldSurvey.Survey.Run

/-!
# The scans of a run

A journal says what a run has done: the courses that its scans took, the servers that it asked,
and the batches that it published.  A call is noted once it is answered.  How probes answer, and
when, is left open, so that a scan may take any course.

Whatever its calls are answered, a run scans for hosts at most once, and for the open ports of
what it has found at most once after that.  A plan has merged its addresses, so that no address is
probed twice.  Its port ranges stay as the request names them, and a socket is probed once for
each of them that has its port.
-/

/-! ## Journals -/

namespace FieldSurvey.Survey

open Address (Ip Socket)
open Model (DiscoveredEndpoint ResultRecord)
open Probe (Course Outcome Scan)

/-- A server that was asked, and what it answered. -/
structure Inquiry where
  target : Target
  locales : List String
  answer : Outcome (Except String (List DiscoveredEndpoint))

/-- What a run has done. -/
structure Journal where
  /-- the courses of its scans for hosts -/
  hosts : List (Course Ip) := []
  /-- the courses of its scans for open ports -/
  ports : List (Course Socket) := []
  inquiries : List Inquiry := []
  published : List (List ResultRecord) := []

namespace Journal

/-- The addresses that were probed, in the order of the probes. -/
def pinged (journal : Journal) : List Ip :=
  journal.hosts.flatMap Course.probed

/-- The addresses that responded, in the order of the reports. -/
def responsive (journal : Journal) : List Ip :=
  journal.hosts.flatMap Course.reported

/-- The sockets that were probed, in the order of the probes. -/
def connected (journal : Journal) : List Socket :=
  journal.ports.flatMap Course.probed

/-- The sockets that were reported as open, in the order of the reports. -/
def reported (journal : Journal) : List Socket :=
  journal.ports.flatMap Course.reported

/-- The journal with another scan. -/
def scanned (journal : Journal) : (phase : Phase) → Course phase.Item → Journal
  | .hosts, course => { journal with hosts := journal.hosts ++ [course] }
  | .ports, course => { journal with ports := journal.ports ++ [course] }

/-- Whether a journal turns into another one as a call is answered. -/
def Notes (journal : Journal) : (call : RunCall) → call.Reply → Journal → Prop
  | .probe phase scan, outcome, after =>
    ∃ course, scan.Takes course ∧ course.pool.isDone ∧ outcome = course.pool.outcome ∧
      after = journal.scanned phase course
  | .askUnlessCancelled (.find target locales), answer, after =>
    after = { journal with inquiries := journal.inquiries ++ [{ target, locales, answer }] }
  | .ask (.publish batch), _, after =>
    after = { journal with published := journal.published ++ [batch] }
  | _, _, after => after = journal

end Journal

/-- Whether a journal may be that of a run at some moment, whatever its calls are answered.  A scan
that is under way at that moment is in the journal as far as it has come. -/
inductive Records (survey : Survey) : Journal → Prop
  | called {rest : Program RunCalls Ending} {journal : Journal}
    (leads : survey.run.Leads Journal.Notes {} rest journal) : Records survey journal
  | scanning {phase : Phase} {scan : Scan phase.Item}
    {next : Outcome (List phase.Item) → Program RunCalls Ending} {journal : Journal}
    {course : Course phase.Item}
    (leads : survey.run.Leads Journal.Notes {} (.call (.probe phase scan) next) journal)
    (takes : scan.Takes course) : Records survey (journal.scanned phase course)

end FieldSurvey.Survey

/-! ## Scans in their turn -/

namespace FieldSurvey.Survey

open Address (Ip Socket)
open Model (Registration)
open Probe (Course Outcome Scan)

/-- The scans that a run may have carried out. -/
inductive Sweeps (survey : Survey) : List (Course Ip) → List (Course Socket) → Prop
  | none : Sweeps survey [] []
  | hosts {course : Course Ip} (takes : survey.hostScan.Takes course) : Sweeps survey [course] []
  | ports {hosts : Course Ip} {course : Course Socket} {found : List Ip}
    (before : survey.hostScan.Takes hosts) (isDone : hosts.pool.isDone)
    (completed : hosts.pool.outcome = .completed found)
    (takes : (survey.portScan (portScanAddresses survey.plan found)).Takes course) :
    Sweeps survey [hosts] [course]

/-- Whether a journal holds scans that its run may have carried out. -/
def Journal.Sweeps (survey : Survey) (journal : Journal) : Prop :=
  Survey.Sweeps survey journal.hosts journal.ports

theorem Journal.Sweeps.of_none {survey : Survey} {journal : Journal} (noHosts : journal.hosts = [])
    (noPorts : journal.ports = []) : journal.Sweeps survey := by
  unfold Journal.Sweeps
  rw [noHosts, noPorts]
  exact .none

/-- Whether a scan comes in its turn, whichever course it takes, and its targets are listed. -/
structure Due (survey : Survey) (journal : Journal) (phase : Phase) (scan : Scan phase.Item) :
    Prop where
  sweeps : ∀ course, scan.Takes course → (journal.scanned phase course).Sweeps survey
  lists : ∃ sequence : List phase.Item, scan.targets = fun position => sequence[position]?

/-- The setting of a run that may carry out a scan only in its turn, and leaves it to the scan to
tell of what it finds. -/
def sweeping (survey : Survey) : Setting RunCalls Journal where
  permits journal call :=
    journal.Sweeps survey ∧
      match call with
      | .probe phase scan => Due survey journal phase scan
      | .report event => event.isPlain
      | _ => True
  answers := Journal.Notes

/-! ## Programs without scans -/

section Plain

variable {β : Type}

/-- A call that is no scan leaves the scans of a journal as they are. -/
theorem Journal.Notes.scans_eq {journal after : Journal} {call : RunCall} {reply : call.Reply}
    (notes : journal.Notes call reply after) (isPlain : call.isPlain) :
    after.hosts = journal.hosts ∧ after.ports = journal.ports := by
  unfold Notes at notes
  split at notes
  · contradiction
  all_goals
    subst notes
    exact ⟨rfl, rfl⟩

/-- A program without scans leaves the scans of a journal as they are. -/
theorem ensures_of_plain {survey : Survey} {program : Program RunCalls β}
    (plain : program.Only RunCall.isPlain) {before : Journal} (sweeps : before.Sweeps survey) :
    program.Ensures (sweeping survey)
      (fun _ after => after.hosts = before.hosts ∧ after.ports = before.ports) before := by
  induction program generalizing before with
  | done value => exact ⟨rfl, rfl⟩
  | call request next ih =>
      obtain ⟨isPlain, rest⟩ := plain
      refine ⟨⟨sweeps, ?_⟩, fun reply after notes => ?_⟩
      · cases request <;> first | contradiction | exact isPlain
      · obtain ⟨hosts, ports⟩ := notes.scans_eq isPlain
        have still : after.Sweeps survey := by
          unfold Journal.Sweeps at sweeps ⊢
          rwa [hosts, ports]
        refine (ih reply (rest reply) still).imp ?_
        rintro value reached ⟨hosts', ports'⟩
        exact ⟨hosts'.trans hosts, ports'.trans ports⟩

/-- A program without scans keeps them in their turn. -/
theorem Journal.Sweeps.of_plain {survey : Survey} {program : Program RunCalls β}
    (plain : program.Only RunCall.isPlain) {before : Journal} (sweeps : before.Sweeps survey) :
    program.Ensures (sweeping survey) (fun _ after => after.Sweeps survey) before := by
  refine (ensures_of_plain plain sweeps).imp ?_
  rintro _ after ⟨hosts, ports⟩
  unfold Journal.Sweeps
  rwa [hosts, ports]

end Plain

/-! ## Addresses of a scan for ports -/

theorem addAddresses_cons (ip : Ip) (rest addresses : List Ip) :
    addAddresses (ip :: rest) addresses =
      addAddresses rest (if ip ∈ addresses then addresses else addresses ++ [ip]) := by
  simp [addAddresses]

theorem nodup_addAddresses (more : List Ip) {addresses : List Ip} (apart : addresses.Nodup) :
    (addAddresses more addresses).Nodup := by
  induction more generalizing addresses with
  | nil => exact apart
  | cons ip rest ih =>
      rw [addAddresses_cons]
      apply ih
      split
      case isTrue => exact apart
      case isFalse absent => exact List.nodup_append_comm.mp (apart.cons absent)

theorem mem_addAddresses {more addresses : List Ip} {ip : Ip} :
    ip ∈ addAddresses more addresses ↔ ip ∈ addresses ∨ ip ∈ more := by
  induction more generalizing addresses with
  | nil => simp [addAddresses]
  | cons first rest ih =>
      rw [addAddresses_cons, ih, List.mem_cons]
      split
      case isTrue present =>
        constructor
        · rintro (old | later)
          · exact Or.inl old
          · exact Or.inr (Or.inr later)
        · rintro (old | rfl | later)
          · exact Or.inl old
          · exact Or.inl present
          · exact Or.inr later
      case isFalse => rw [List.mem_append, List.mem_singleton, or_assoc]

/-- The ports of the hosts that were found, of this machine and of the host of the container are
scanned. -/
theorem mem_portScanAddresses {plan : Plan} {found : List Ip} {ip : Ip} :
    ip ∈ portScanAddresses plan found ↔
      ip ∈ found ∨ ip = .v4 .loopback ∨ ip ∈ plan.containerHost.map Ip.v4 := by
  rw [portScanAddresses, mem_addAddresses, List.mem_cons]
  simp

/-! ## The scans -/

theorem hostScan_targets (survey : Survey) :
    survey.hostScan.targets = fun position =>
      ((survey.plan.addressRanges.flatMap Address.Range.toList).map Ip.v4)[position]? :=
  Scan.hosts_targets _ _ _ _

theorem portScan_targets (survey : Survey) (addresses : List Ip) :
    (survey.portScan addresses).targets = fun position =>
      (Probe.socketsOf addresses
        (survey.plan.portRanges.flatMap Port.Range.toList))[position]? :=
  Scan.ports_targets _ _ _ _ _ _

theorem ensures_report {survey : Survey} {before : Journal} (sweeps : before.Sweeps survey)
    {event : Event} (isPlain : event.isPlain) :
    (report event).Ensures (sweeping survey) (fun _ after => after = before) before :=
  ⟨⟨sweeps, isPlain⟩, fun _ _ same => same⟩

theorem isPlain_event (ending : Ending) : ending.event.isPlain := by
  cases ending <;> trivial

theorem ensures_isCancelled {survey : Survey} {before : Journal} (sweeps : before.Sweeps survey) :
    isCancelled.Ensures (sweeping survey) (fun _ after => after = before) before :=
  ⟨⟨sweeps, trivial⟩, fun _ _ same => same⟩

theorem ensures_probe {survey : Survey} {before : Journal} (sweeps : before.Sweeps survey)
    {phase : Phase} {scan : Scan phase.Item} (due : Due survey before phase scan) :
    (probe phase scan).Ensures (sweeping survey) (fun outcome after =>
      ∃ course, scan.Takes course ∧ course.pool.isDone ∧ outcome = course.pool.outcome ∧
        after = before.scanned phase course) before :=
  ⟨⟨sweeps, due⟩, fun _ _ notes => notes⟩

/-- What a run has scanned once it has found hosts, or was cancelled. -/
def FoundHosts (survey : Survey) (outcome : Outcome (List Ip)) (journal : Journal) : Prop :=
  ∃ course, survey.hostScan.Takes course ∧ course.pool.isDone ∧ journal.hosts = [course] ∧
    journal.ports = [] ∧ ∀ addresses, outcome = .completed addresses →
      ∃ found, course.pool.outcome = .completed found ∧
        addresses = portScanAddresses survey.plan found

theorem ensures_scanHosts (survey : Survey) {before : Journal} (noHosts : before.hosts = [])
    (noPorts : before.ports = []) :
    survey.scanHosts.Ensures (sweeping survey) (FoundHosts survey) before := by
  have sweeps : before.Sweeps survey := .of_none noHosts noPorts
  have due : Due survey before .hosts survey.hostScan :=
    { sweeps := fun course takes => by
        simp only [Journal.Sweeps, Journal.scanned, noHosts, noPorts]
        exact .hosts takes
      lists := ⟨_, survey.hostScan_targets⟩ }
  refine (ensures_report sweeps (by trivial)).bind ?_
  rintro _ before rfl
  apply (ensures_probe sweeps due).bind
  rintro outcome after ⟨course, takes, isDone, came, rfl⟩
  have scans : (before.scanned .hosts course).hosts = [course] := by simp [Journal.scanned, noHosts]
  cases outcome with
  | cancelled => exact ⟨course, takes, isDone, scans, noPorts, fun _ other => by contradiction⟩
  | completed found =>
      refine (ensures_report (due.sweeps course takes) (by trivial)).bind ?_
      rintro _ _ rfl
      refine ⟨course, takes, isDone, scans, noPorts, ?_⟩
      rintro addresses ⟨⟩
      exact ⟨found, came.symm, rfl⟩

theorem ensures_scanPorts (survey : Survey) {before : Journal} {addresses : List Ip}
    (found : FoundHosts survey (.completed addresses) before) :
    (survey.scanPorts addresses).Ensures (sweeping survey)
      (fun _ after => after.Sweeps survey) before := by
  obtain ⟨hosts, takesHosts, isDone, oneHosts, noPorts, completes⟩ := found
  obtain ⟨found, completed, rfl⟩ := completes addresses rfl
  have sweeps : before.Sweeps survey := by
    unfold Journal.Sweeps
    rw [oneHosts, noPorts]
    exact .hosts takesHosts
  have due : Due survey before .ports
      (survey.portScan (portScanAddresses survey.plan found)) :=
    { sweeps := fun course takes => by
        simp only [Journal.Sweeps, Journal.scanned, oneHosts, noPorts]
        exact .ports takesHosts isDone completed takes
      lists := ⟨_, survey.portScan_targets _⟩ }
  refine (ensures_report sweeps (by trivial)).bind ?_
  rintro _ before rfl
  apply (ensures_probe sweeps due).bind
  rintro outcome after ⟨course, takes, -, -, rfl⟩
  have further := due.sweeps course takes
  cases outcome with
  | cancelled => exact further
  | completed found =>
      refine (ensures_report further (by trivial)).bind ?_
      rintro _ _ rfl
      exact further

/-! ## The run -/

theorem ensures_addScanned (survey : Survey) (targets : List Target) {before : Journal}
    (noHosts : before.hosts = []) (noPorts : before.ports = []) :
    (survey.addScanned targets).Ensures (sweeping survey)
      (fun _ after => after.Sweeps survey) before := by
  unfold addScanned
  split
  · apply (survey.ensures_scanHosts noHosts noPorts).bind
    intro outcome after found
    cases outcome with
    | cancelled =>
        obtain ⟨course, takes, -, oneHosts, noPorts, -⟩ := found
        change Survey.Sweeps survey after.hosts after.ports
        rw [oneHosts, noPorts]
        exact .hosts takes
    | completed addresses =>
        apply (survey.ensures_scanPorts found).bind
        intro outcome after sweeps
        cases outcome with
        | cancelled => exact sweeps
        | completed sockets => exact sweeps.of_plain (plain_addOpen sockets targets)
  · exact .of_none noHosts noPorts

theorem ensures_carryOut (survey : Survey) {before : Journal} (noHosts : before.hosts = [])
    (noPorts : before.ports = []) :
    survey.carryOut.Ensures (sweeping survey) (fun _ after => after.Sweeps survey) before := by
  apply (ensures_of_plain (plain_addDeclared _ _ _) (.of_none noHosts noPorts)).bind
  rintro targets declared ⟨hosts, ports⟩
  rw [noHosts] at hosts
  rw [noPorts] at ports
  apply (ensures_isCancelled (.of_none hosts ports)).bind
  rintro cancelled declared rfl
  cases cancelled with
  | true => exact .of_none hosts ports
  | false =>
      apply (survey.ensures_addScanned targets hosts ports).bind
      intro outcome after sweeps
      cases outcome with
      | cancelled => exact sweeps
      | completed targets =>
          apply (sweeps.of_plain (survey.plain_askServers targets)).bind
          intro outcome after sweeps
          cases outcome with
          | cancelled => exact sweeps
          | completed registrations => exact sweeps.of_plain (survey.plain_publish registrations)

theorem ensures_run (survey : Survey) :
    survey.run.Ensures (sweeping survey) (fun _ after => after.Sweeps survey) {} := by
  have nothing : Journal.Sweeps survey {} := .of_none rfl rfl
  apply (ensures_isCancelled nothing).bind
  rintro cancelled _ rfl
  cases cancelled with
  | true =>
      refine (ensures_report nothing (by trivial)).bind ?_
      rintro _ _ rfl
      exact nothing
  | false =>
      refine (ensures_report nothing (by trivial)).bind ?_
      rintro _ _ rfl
      apply (survey.ensures_carryOut rfl rfl).bind
      intro ending after sweeps
      apply (ensures_report sweeps (isPlain_event ending)).bind
      rintro _ after rfl
      exact sweeps

/-- A run scans for hosts at most once, and then at most once for the ports of what it found. -/
theorem sweeps_of_records {survey : Survey} {journal : Journal} (records : Records survey journal) :
    journal.Sweeps survey := by
  cases records with
  | @called rest journal leads =>
      have ensures := survey.ensures_run.of_leads leads
      cases rest with
      | done ending => exact ensures
      | call request next => exact ensures.1.1
  | scanning leads takes =>
      have ensures := survey.ensures_run.of_leads leads
      exact ensures.1.2.sweeps _ takes

end FieldSurvey.Survey
