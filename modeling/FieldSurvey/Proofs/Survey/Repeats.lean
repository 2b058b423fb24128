import FieldSurvey.Proofs.Survey.Bookkeeping

/-!
# What a run probes more than once

No address is probed twice in one run, because the addresses of a plan are merged.  The port
ranges of a plan are those that the request names, as they stand: a socket is probed, and reported,
as often as its port is named, hence more than once as soon as two of the ranges overlap.
-/

namespace FieldSurvey

/-! ## Plans -/

namespace Plan

open Model (Mode Request)

/-- The addresses of a plan are merged. -/
theorem separate_addressRanges (request : Request) (surroundings : Surroundings) :
    Address.Range.Separate (resolve request surroundings).addressRanges := by
  unfold resolve
  split
  · exact Address.Range.separate_merge _
  · exact .nil

/-- The ports of a mode are named once. -/
theorem apart_portsOf (mode : Mode) : (portsOf mode).Pairwise Port.Range.Apart := by
  cases mode <;> decide

/-- The ports of a plan are named once if the request leaves them to the mode. -/
theorem apart_portRanges {request : Request} (implicit : request.config.bind explicitPorts? = none)
    (surroundings : Surroundings) :
    (resolve request surroundings).portRanges.Pairwise Port.Range.Apart := by
  unfold resolve
  split
  case h_1 config given =>
    rw [given] at implicit
    change ((explicitPorts? config).getD (portsOf _)).Pairwise _
    rw [show explicitPorts? config = none from implicit]
    exact apart_portsOf _
  case h_2 => exact .nil

end Plan

namespace Survey

open Address (Ip Socket)
open Model (Request)
open Probe (Course)

/-! ## Journals -/

section Journals

variable {survey : Survey} {journal : Journal}

/-- How often a run probes a target. -/
structure Journal.Repeats (survey : Survey) (journal : Journal) : Prop where
  pinged : journal.pinged.Nodup
  connected : ∀ socket, journal.connected.count socket ≤
    survey.plan.portRanges.countP (·.contains socket.port)
  /-- a scan that comes to its end probes every socket as often as its port is named -/
  completed : ∀ course ∈ journal.ports, course.pool.isDone → course.isCancelled = false →
    ∀ socket ∈ journal.connected, journal.connected.count socket =
      survey.plan.portRanges.countP (·.contains socket.port)
  /-- such a scan probes a socket twice just if two ranges have a port in common -/
  nodup_iff : ∀ course ∈ journal.ports, course.pool.isDone → course.isCancelled = false →
    (journal.connected.Nodup ↔ survey.plan.portRanges.Pairwise Port.Range.Apart)
  reported : journal.reported.Subperm journal.connected

/-- How often a run probes a target, in terms of the request that it carries out. -/
structure Journal.RepeatsAsNamed (request : Request) (survey : Survey) (journal : Journal) : Prop
    extends journal.Repeats survey where
  apart : survey.plan.portRanges.Pairwise Port.Range.Apart →
    journal.connected.Nodup ∧ journal.reported.Nodup
  implicit : request.config.bind Plan.explicitPorts? = none →
    journal.connected.Nodup ∧ journal.reported.Nodup

theorem nodup_pinged (merged : Address.Range.Separate survey.plan.addressRanges)
    {course : Course Ip} (takes : survey.hostScan.Takes course) : course.probed.Nodup := by
  have listed : ((survey.plan.addressRanges.flatMap Address.Range.toList).map Ip.v4).Nodup :=
    merged.nodup.map fun _ _ => Ip.v4.inj
  exact listed.sublist (takes.covers survey.hostScan_targets).probed.sublist

/-- The addresses whose ports are scanned are listed once. -/
theorem nodup_portScanAddresses (merged : Address.Range.Separate survey.plan.addressRanges)
    {course : Course Ip} (takes : survey.hostScan.Takes course) (isDone : course.pool.isDone)
    {found : List Ip} (completed : course.pool.outcome = .completed found) :
    (portScanAddresses survey.plan found).Nodup := by
  have covers := takes.covers survey.hostScan_targets
  have same : found = course.reported := by
    cases cancelled : course.isCancelled with
    | true =>
        rw [covers.cancelled isDone cancelled] at completed
        contradiction
    | false =>
        have both := completed.symm.trans (covers.completed isDone cancelled).2
        exact Probe.Outcome.completed.inj both
  rw [same]
  obtain ⟨listed, perm, sublist⟩ := covers.reported
  exact nodup_addAddresses _ (perm.nodup_iff.mp (sublist.nodup (nodup_pinged merged takes)))

theorem count_probed_le {addresses : List Ip} (apart : addresses.Nodup) {course : Course Socket}
    (takes : (survey.portScan addresses).Takes course) (socket : Socket) :
    course.probed.count socket ≤ survey.plan.portRanges.countP (·.contains socket.port) := by
  have covers := takes.covers (survey.portScan_targets addresses)
  have once := List.nodup_iff_count_le_one.mp apart socket.ip
  have listed := covers.probed.sublist.count_le socket
  rw [Probe.count_socketsOf, Port.Range.count_flatMap_toList] at listed
  exact listed.trans ((Nat.mul_le_mul_right _ once).trans_eq (Nat.one_mul _))

/-- A complete scan probes every socket as often as its port is named. -/
theorem count_probed {addresses : List Ip} (apart : addresses.Nodup) {course : Course Socket}
    (takes : (survey.portScan addresses).Takes course) (isDone : course.pool.isDone)
    (goesOn : course.isCancelled = false) {socket : Socket} (member : socket ∈ course.probed) :
    course.probed.count socket = survey.plan.portRanges.countP (·.contains socket.port) := by
  have covers := takes.covers (survey.portScan_targets addresses)
  rw [(covers.completed isDone goesOn).1] at member ⊢
  rw [Probe.count_socketsOf, Port.Range.count_flatMap_toList, apart.count,
    if_pos (Probe.mem_socketsOf.mp member).1, Nat.one_mul]

/-- It probes no socket twice just if no two ranges have a port in common. -/
theorem nodup_probed_iff {addresses : List Ip} (apart : addresses.Nodup) (nonempty : addresses ≠ [])
    {course : Course Socket} (takes : (survey.portScan addresses).Takes course)
    (isDone : course.pool.isDone) (goesOn : course.isCancelled = false) :
    course.probed.Nodup ↔ survey.plan.portRanges.Pairwise Port.Range.Apart := by
  have covers := takes.covers (survey.portScan_targets addresses)
  rw [(covers.completed isDone goesOn).1, Probe.nodup_socketsOf_iff apart nonempty,
    Port.Range.nodup_flatMap_toList_iff]

theorem Journal.Sweeps.repeats (merged : Address.Range.Separate survey.plan.addressRanges)
    (sweeps : journal.Sweeps survey) : journal.Repeats survey := by
  obtain ⟨hosts, ports, inquiries, published⟩ := journal
  cases sweeps with
  | none =>
      exact
        { pinged := .nil
          connected := fun _ => Nat.zero_le _
          completed := by simp
          nodup_iff := by simp
          reported := .refl _ }
  | hosts takes =>
      exact
        { pinged := by simpa [Journal.pinged] using nodup_pinged merged takes
          connected := fun _ => Nat.zero_le _
          completed := by simp
          nodup_iff := by simp
          reported := .refl _ }
  | @ports _ course found before isDone completed takes =>
      have apart := nodup_portScanAddresses merged before isDone completed
      have nonempty : portScanAddresses survey.plan found ≠ [] :=
        List.ne_nil_of_mem (mem_portScanAddresses.mpr (Or.inr (Or.inl rfl)))
      have covers := takes.covers (survey.portScan_targets _)
      exact
        { pinged := by simpa [Journal.pinged] using nodup_pinged merged before
          connected := by simpa [Journal.connected] using count_probed_le apart takes
          completed := by
            intro _ member ends goesOn
            obtain rfl := List.mem_singleton.mp member
            simp only [Journal.connected, List.flatMap_singleton]
            exact fun socket => count_probed apart takes ends goesOn
          nodup_iff := by
            intro _ member ends goesOn
            obtain rfl := List.mem_singleton.mp member
            simp only [Journal.connected, List.flatMap_singleton]
            exact nodup_probed_iff apart nonempty takes ends goesOn
          reported := by simpa [Journal.reported, Journal.connected] using covers.reported }

/-- Nothing is probed or reported twice if no two port ranges have a port in common. -/
theorem Journal.Repeats.nodup (repeats : journal.Repeats survey)
    (apart : survey.plan.portRanges.Pairwise Port.Range.Apart) :
    journal.connected.Nodup ∧ journal.reported.Nodup := by
  have connected : journal.connected.Nodup := by
    rw [List.nodup_iff_count_le_one]
    intro socket
    have named := List.nodup_iff_count_le_one.mp (Port.Range.nodup_flatMap_toList_iff.mpr apart)
      socket.port
    rw [Port.Range.count_flatMap_toList] at named
    exact (repeats.connected socket).trans named
  obtain ⟨listed, perm, sublist⟩ := repeats.reported
  exact ⟨connected, perm.nodup_iff.mp (sublist.nodup connected)⟩

/-- No address is probed twice in a run, and no socket is probed more often than the request names
its port.  A complete scan probes a socket twice as soon as two port ranges overlap.  This holds of
every journal of a run, hence, with what its events tell to be open, at every moment of one that
advances from wait to wait. -/
theorem targets_probed_as_named {request : Request} {surroundings : Surroundings}
    (resolved : survey.plan = Plan.resolve request surroundings) :
    (∀ journal, Records survey journal → journal.RepeatsAsNamed request survey) ∧
      ∀ circumstances events status, Carries circumstances survey events status →
        ∃ journal, Records survey journal ∧ journal.ToldBy events ∧
          journal.RepeatsAsNamed request survey := by
  have merged : Address.Range.Separate survey.plan.addressRanges := by
    rw [resolved]
    exact Plan.separate_addressRanges request surroundings
  have repeats : ∀ journal, Records survey journal → journal.RepeatsAsNamed request survey := by
    intro journal records
    have repeats := (sweeps_of_records records).repeats merged
    refine { repeats with apart := repeats.nodup, implicit := fun implicit => repeats.nodup ?_ }
    rw [resolved]
    exact Plan.apart_portRanges implicit surroundings
  refine ⟨repeats, fun circumstances events status carries => ?_⟩
  obtain ⟨journal, records, told⟩ := exists_records carries
  exact ⟨journal, records, told, repeats journal records⟩

end Journals

/-! ## A request that names a port twice -/

section Overlapping

open Probe (Trial)

/-- A request for one address whose port ranges are the same. -/
def overlappingRequest : Request where
  mode := some .network
  config := some { addressRanges := some "10.0.0.1", portRanges := some "4840,4840" }

def overlappingSurvey : Survey where
  discoverer := {}
  plan := Plan.resolve overlappingRequest {}
  isContainer := false
  reportInterval := 3000

/-- The host does not respond. -/
def silentHost : Trial Ip where
  scan := overlappingSurvey.hostScan
  sequence := _
  targets_eq := overlappingSurvey.hostScan_targets
  script _ := {}

/-- The port of this machine is open. -/
def openPort : Trial Socket where
  scan := overlappingSurvey.portScan [.v4 .loopback]
  sequence := _
  targets_eq := overlappingSurvey.portScan_targets _
  script _ := { verdict := .opened }

def silentCourse : Course Ip :=
  silentHost.turn (.settled 0) false (silentHost.proceed false silentHost.fresh)

def openCourse : Course Socket :=
  openPort.turn (.settled 1) false
    (openPort.turn (.settled 0) false (openPort.proceed false openPort.fresh))

theorem takes_silentCourse : overlappingSurvey.hostScan.Takes silentCourse :=
  ⟨silentHost, rfl, .turned (.begun false) (by decide +kernel) _ _⟩

theorem takes_openCourse : (overlappingSurvey.portScan [.v4 .loopback]).Takes openCourse :=
  ⟨openPort, rfl,
    .turned (.turned (.begun false) (by decide +kernel) _ _) (by decide +kernel) _ _⟩

/-- What the run has done when it has scanned the ports. -/
def overlappingJournal : Journal where
  hosts := [silentCourse]
  ports := [openCourse]

theorem records_overlappingJournal : Records overlappingSurvey overlappingJournal := by
  have isDone : silentCourse.pool.isDone := by decide +kernel
  have nothing : .completed [] = silentCourse.pool.outcome := by decide +kernel
  have leads : ∃ next, overlappingSurvey.run.Leads Journal.Notes {}
      (.call (.probe .ports (overlappingSurvey.portScan [.v4 .loopback])) next)
      { hosts := [silentCourse] } := by
    apply Exists.intro
    -- it is not cancelled, begins, has no urls to look at and is still not cancelled
    refine .call false rfl (.call () rfl (.call false rfl ?_))
    -- the scan for hosts begins, finds nothing and is over
    refine .call () rfl ?_
    refine .call (.completed []) ⟨silentCourse, takes_silentCourse, isDone, nothing, rfl⟩ ?_
    refine .call () rfl ?_
    -- the scan for ports begins
    exact .call () rfl (.here _ _)
  obtain ⟨next, leads⟩ := leads
  exact .scanning leads takes_openCourse

theorem overlapping_targets_probed_as_named :
    overlappingSurvey.plan = Plan.resolve overlappingRequest {} ∧
      Records overlappingSurvey overlappingJournal ∧
      overlappingJournal.RepeatsAsNamed overlappingRequest overlappingSurvey :=
  have resolved : overlappingSurvey.plan = Plan.resolve overlappingRequest {} := rfl
  ⟨resolved, records_overlappingJournal,
    (targets_probed_as_named resolved).1 _ records_overlappingJournal⟩

/-- The port of this machine is probed twice, and reported as open twice. -/
theorem overlapping_ports_probed_twice :
    overlappingSurvey.plan = Plan.resolve overlappingRequest {} ∧
      Records overlappingSurvey overlappingJournal ∧
      overlappingJournal.connected =
        [{ ip := .v4 .loopback, port := 4840 }, { ip := .v4 .loopback, port := 4840 }] ∧
      overlappingJournal.reported =
        [{ ip := .v4 .loopback, port := 4840 }, { ip := .v4 .loopback, port := 4840 }] :=
  ⟨rfl, records_overlappingJournal, by decide +kernel, by decide +kernel⟩

end Overlapping

end Survey

end FieldSurvey
