import FieldSurvey.Proofs.Address.Merging
import FieldSurvey.Proofs.Probe.Completion
import FieldSurvey.Proofs.Probe.Progress

/-!
# What a scan probes

The targets of a scan are listed: those of a scan of hosts are the addresses of its ranges, those
of a scan of ports are the sockets of every address with every port of its ranges.  Ranges of
ports may overlap, and then the same socket is listed for each of them.
-/

namespace FieldSurvey

/-! ## Addresses -/

namespace Address.Range

theorem get?_eq (range : Range) (index : Nat) : range.get? index = range.toList[index]? := by
  have ordered := range.low_le_high
  have values : (range.get? index).map V4.value = (range.toList[index]?).map V4.value := by
    rw [← List.getElem?_map, map_value_toList]
    unfold get?
    split
    case isTrue within =>
      rw [List.getElem?_range' (by unfold count; omega), Nat.one_mul]
      rfl
    case isFalse beyond =>
      rw [List.getElem?_eq_none (by rw [List.length_range', count]; omega)]
      rfl
  exact Option.map_injective (fun _ _ => V4.eq_of_value_eq) values

/-- The positions of a list of ranges are those of its addresses. -/
theorem nth?_eq (ranges : List Range) (index : Nat) :
    nth? ranges index = (ranges.flatMap toList)[index]? := by
  induction ranges generalizing index with
  | nil => rfl
  | cons range rest inductionHypothesis =>
      rw [nth?, List.flatMap_cons, List.getElem?_append, length_toList, get?_eq,
        inductionHypothesis]

end Address.Range

/-! ## Ports -/

namespace Port.Range

variable {range : Range} {ranges : List Range} {port : Nat}

@[simp]
theorem length_toList (range : Range) : range.toList.length = range.count := by
  simp [toList]

theorem mem_toList : port ∈ range.toList ↔ range.contains port := by
  have ordered := range.lower_le_upper
  simp only [toList, count, List.mem_map, List.mem_range, contains, Bool.and_eq_true,
    decide_eq_true_eq]
  constructor
  · rintro ⟨offset, within, rfl⟩
    omega
  · intro inside
    exact ⟨port - range.lower, by omega, by omega⟩

theorem nodup_toList (range : Range) : range.toList.Nodup :=
  List.nodup_range.map fun _ _ same => Nat.add_left_cancel same

theorem get?_eq (range : Range) (index : Nat) : range.get? index = range.toList[index]? := by
  have ordered := range.lower_le_upper
  rw [toList, List.getElem?_map]
  unfold get?
  split
  case isTrue within =>
    rw [List.getElem?_range (by unfold count; omega)]
    rfl
  case isFalse beyond =>
    rw [List.getElem?_eq_none (by simp only [List.length_range, count]; omega)]
    rfl

/-- The positions of a list of ranges are those of its ports. -/
theorem nth?_eq (ranges : List Range) (index : Nat) :
    nth? ranges index = (ranges.flatMap toList)[index]? := by
  induction ranges generalizing index with
  | nil => rfl
  | cons range rest inductionHypothesis =>
      rw [nth?, List.flatMap_cons, List.getElem?_append, length_toList, get?_eq,
        inductionHypothesis]

theorem length_flatMap_toList (ranges : List Range) :
    (ranges.flatMap toList).length = total ranges := by
  induction ranges with
  | nil => rfl
  | cons range rest inductionHypothesis => simp [total, inductionHypothesis]

/-- A port is listed once for each of the ranges that it lies in. -/
theorem count_flatMap_toList (ranges : List Range) (port : Nat) :
    (ranges.flatMap toList).count port = ranges.countP (·.contains port) := by
  induction ranges with
  | nil => rfl
  | cons range rest inductionHypothesis =>
      rw [List.flatMap_cons, List.count_append, inductionHypothesis, List.countP_cons,
        range.nodup_toList.count, Nat.add_comm]
      simp only [mem_toList]

theorem mem_flatMap_toList : port ∈ ranges.flatMap toList ↔ ranges.any (·.contains port) := by
  simp [List.mem_flatMap, mem_toList]

/-- Whether two ranges have no port in common. -/
def Apart (first second : Range) : Prop :=
  first.upper < second.lower ∨ second.upper < first.lower

instance (first second : Range) : Decidable (Apart first second) :=
  inferInstanceAs (Decidable (_ ∨ _))

theorem apart_iff_disjoint (first second : Range) :
    first.Apart second ↔ first.toList.Disjoint second.toList := by
  have ordered := first.lower_le_upper
  have ordered' := second.lower_le_upper
  simp only [List.disjoint_left, mem_toList, contains, Bool.and_eq_true, decide_eq_true_eq]
  constructor
  · intro apart port inFirst inSecond
    unfold Apart at apart
    omega
  · intro disjoint
    have lower := disjoint (a := max first.lower second.lower)
    unfold Apart
    omega

/-- No port is listed twice just if no two of the ranges have one in common. -/
theorem nodup_flatMap_toList_iff :
    (ranges.flatMap toList).Nodup ↔ ranges.Pairwise Apart := by
  have same : Function.onFun List.Disjoint toList = Apart := by
    funext first second
    exact propext (apart_iff_disjoint first second).symm
  rw [List.nodup_flatMap, same]
  exact and_iff_right fun range _ => range.nodup_toList

end Port.Range

/-! ## Sockets -/

namespace Probe

open Address (Ip Socket)

/-- The sockets of every address with every port, one address after the other. -/
def socketsOf (addresses : List Ip) (ports : List Nat) : List Socket :=
  addresses.flatMap fun ip => ports.map fun port => { ip, port }

section Sockets

variable {addresses : List Ip} {ports : List Nat} {socket : Socket}

theorem mem_socketsOf :
    socket ∈ socketsOf addresses ports ↔ socket.ip ∈ addresses ∧ socket.port ∈ ports := by
  simp only [socketsOf, List.mem_flatMap, List.mem_map]
  constructor
  · rintro ⟨ip, inAddresses, port, inPorts, rfl⟩
    exact ⟨inAddresses, inPorts⟩
  · rintro ⟨inAddresses, inPorts⟩
    exact ⟨socket.ip, inAddresses, socket.port, inPorts, rfl⟩

theorem socketsOf_cons (ip : Ip) :
    socketsOf (ip :: addresses) ports =
      (ports.map fun port => ({ ip, port } : Socket)) ++ socketsOf addresses ports :=
  List.flatMap_cons

/-- The position of a socket tells its address and its port. -/
theorem getElem?_socketsOf (addresses : List Ip) (ports : List Nat) (position : Nat) :
    (socketsOf addresses ports)[position]? =
      (addresses[position / ports.length]?).bind fun ip =>
        (ports[position % ports.length]?).map fun port => { ip, port } := by
  induction addresses generalizing position with
  | nil => rfl
  | cons ip rest inductionHypothesis =>
      rw [socketsOf_cons, List.getElem?_append, List.length_map]
      split
      case isTrue within => simp [Nat.div_eq_of_lt within, Nat.mod_eq_of_lt within]
      case isFalse beyond =>
        rw [inductionHypothesis]
        rcases Nat.eq_zero_or_pos ports.length with none | nonempty
        · simp [List.eq_nil_of_length_eq_zero none]
        · have later : position = position - ports.length + ports.length := by omega
          rw [later, Nat.add_sub_cancel, Nat.add_div_right _ nonempty, Nat.add_mod_right,
            List.getElem?_cons_succ]

theorem count_map_port (ip : Ip) (ports : List Nat) (socket : Socket) :
    (ports.map fun port => ({ ip, port } : Socket)).count socket =
      if ip = socket.ip then ports.count socket.port else 0 := by
  split
  case isTrue same =>
    subst same
    have injective : Function.Injective fun port => ({ ip := socket.ip, port } : Socket) := by
      intro first second same
      exact congrArg Socket.port same
    exact List.count_map_of_injective ports _ injective socket.port
  case isFalse differ =>
    refine List.count_eq_zero_of_not_mem fun member => ?_
    obtain ⟨port, -, rfl⟩ := List.mem_map.mp member
    exact differ rfl

/-- A socket is listed as often as its address, times as often as its port. -/
theorem count_socketsOf (addresses : List Ip) (ports : List Nat) (socket : Socket) :
    (socketsOf addresses ports).count socket =
      addresses.count socket.ip * ports.count socket.port := by
  induction addresses with
  | nil => simp [socketsOf]
  | cons ip rest inductionHypothesis =>
      rw [socketsOf_cons, List.count_append, count_map_port, inductionHypothesis, List.count_cons,
        Nat.add_mul, Nat.add_comm]
      by_cases same : ip = socket.ip <;> simp [same]

/-- If there are addresses, and no two of them are the same, then no socket is listed twice just
if no port is. -/
theorem nodup_socketsOf_iff (apart : addresses.Nodup) (nonempty : addresses ≠ []) :
    (socketsOf addresses ports).Nodup ↔ ports.Nodup := by
  simp only [List.nodup_iff_count_le_one, count_socketsOf]
  constructor
  · intro once port
    obtain ⟨ip, member⟩ := List.exists_mem_of_ne_nil addresses nonempty
    have one := once { ip, port }
    rwa [apart.count, if_pos member, Nat.one_mul] at one
  · intro once socket
    have address := List.nodup_iff_count_le_one.mp apart socket.ip
    exact Nat.mul_le_mul address (once socket.port)

end Sockets

/-! ## Scans -/

namespace Scan

/-- The targets of a scan of hosts. -/
theorem hosts_targets (ranges : List Address.Range) (maxProbes : UInt64) (timeout interval : Nat) :
    (hosts ranges maxProbes timeout interval).targets =
      fun position => ((ranges.flatMap Address.Range.toList).map Ip.v4)[position]? := by
  funext position
  rw [List.getElem?_map, ← Address.Range.nth?_eq]
  rfl

/-- The targets of a scan of ports. -/
theorem ports_targets (addresses : List Ip) (ranges : List Port.Range) (maxProbes : UInt64)
    (percent : UInt32) (timeout interval : Nat) :
    (ports addresses ranges maxProbes percent timeout interval).targets =
      fun position => (socketsOf addresses (ranges.flatMap Port.Range.toList))[position]? := by
  funext position
  rw [getElem?_socketsOf, Port.Range.length_flatMap_toList]
  simp only [ports, socketAt, Port.Range.nth?_eq, Option.map_eq_bind]
  rfl

/-- Whether a scan may take a course, however its probes answer. -/
def Takes {τ : Type} (scan : Scan τ) (course : Course τ) : Prop :=
  ∃ trial : Trial τ, trial.scan = scan ∧ trial.Reaches course

end Scan

/-! ## What a course has probed -/

namespace Course

variable {τ : Type} {course : Course τ}

/-- The targets that were probed, in the order in which the probes were issued. -/
def probed (course : Course τ) : List τ :=
  (issuedIn course.log).map Prod.fst

/-- The targets that were reported as found, in the order of the reports. -/
def reported (course : Course τ) : List τ :=
  foundIn course.log

/-- What a course of a scan with listed targets has probed, reported and handed over. -/
structure Covers (sequence : List τ) (course : Course τ) : Prop where
  probed : course.probed <+: sequence
  reported : course.reported.Subperm course.probed
  completed : course.pool.isDone → course.isCancelled = false →
    course.probed = sequence ∧ course.pool.outcome = .completed course.reported
  cancelled : course.pool.isDone → course.isCancelled → course.pool.outcome = .cancelled

end Course

/-- The targets up to a position are those at the positions before it. -/
theorem take_eq_filterMap_range {τ : Type} (sequence : List τ) {count : Nat}
    (within : count ≤ sequence.length) :
    sequence.take count = (List.range count).filterMap fun position => sequence[position]? := by
  induction count with
  | zero => rfl
  | succ count inductionHypothesis =>
      have here : sequence[count]? = some sequence[count] := List.getElem?_eq_getElem within
      rw [List.range_succ, List.filterMap_append, ← inductionHypothesis (Nat.le_of_succ_le within),
        List.take_add_one]
      simp [here]

/-- What was found lies at the positions of probes that have come to an end. -/
theorem Trial.filterMap_opened?_sublist {τ : Type} (trial : Trial τ) (positions : List Nat) :
    (positions.filterMap trial.opened?).Sublist
      (positions.filterMap fun position => trial.sequence[position]?) := by
  let answers (position : Nat) : Bool := (trial.script position).verdict = .opened ∧
    (trial.script position).delay ≤ trial.scan.config.timeout
  have fewer : positions.filterMap trial.opened? =
      (positions.filter answers).filterMap fun position => trial.sequence[position]? := by
    rw [List.filterMap_filter]
    simp only [answers, decide_eq_true_eq]
    rfl
  rw [fewer]
  exact List.filter_sublist.filterMap _

namespace Trial.Reaches

variable {τ : Type} {trial : Trial τ} {course : Course τ}

theorem probed_eq (reached : trial.Reaches course) :
    course.probed = trial.sequence.take course.pool.counters.issued := by
  rw [Course.probed, reached.sound.issued, List.zipIdx_map_fst]

/-- What is reported was probed, each target at most as often. -/
theorem reported_subperm (reached : trial.Reaches course) :
    course.reported.Subperm course.probed := by
  have sound := reached.sound
  have opened : course.reported.Sublist
      ((settledIn course.log).filterMap fun position => trial.sequence[position]?) := by
    rw [Course.reported, sound.reported, sound.found]
    exact trial.filterMap_opened?_sublist _
  -- the probes that have come to an end are among those that were issued
  have ended : (settledIn course.log).Subperm (List.range course.pool.counters.issued) :=
    (List.sublist_append_left _ _).subperm.trans sound.resolved.subperm
  obtain ⟨positions, perm, sublist⟩ := ended
  rw [reached.probed_eq, take_eq_filterMap_range _ sound.issued_le]
  exact opened.subperm.trans ⟨_, perm.filterMap _, sublist.filterMap _⟩

/-- A pool that is done, and whose scan nobody has cancelled, has reported just those targets that
answer in time that they are open. -/
theorem reported_perm (reached : trial.Reaches course) (isDone : course.pool.isDone)
    (goesOn : course.isCancelled = false) :
    course.reported.Perm ((List.range trial.sequence.length).filterMap trial.opened?) := by
  have sound := reached.sound
  have empty : course.pool.inFlight = [] := List.isEmpty_iff.mp isDone
  have ended := sound.resolved
  rw [empty, List.map_nil, List.append_nil, reached.issued_of_isDone isDone goesOn] at ended
  rw [Course.reported, sound.reported, sound.found]
  exact ended.filterMap _

/-- A course of a scan with listed targets covers them. -/
theorem covers (reached : trial.Reaches course) : course.Covers trial.sequence where
  probed := by
    rw [reached.probed_eq]
    exact List.take_prefix _ _
  reported := reached.reported_subperm
  completed isDone goesOn := by
    have sound := reached.sound
    refine ⟨?_, ?_⟩
    · rw [reached.probed_eq, reached.issued_of_isDone isDone goesOn, List.take_length]
    · rw [Pool.outcome, sound.isCancelled, goesOn, Course.reported, sound.reported]
      rfl
  cancelled _ cancelled := by
    rw [Pool.outcome, reached.sound.isCancelled, cancelled]
    rfl

/-- A pool has less left to do once one of its probes has come to an end. -/
theorem left_turn_lt (reached : trial.Reaches course) {entry : Nat × τ}
    (flies : entry ∈ course.pool.inFlight) :
    (trial.turn (.settled entry.1) false course).pool.left trial.sequence.length <
      course.pool.left trial.sequence.length := by
  have ends : trial.scan.targets trial.sequence.length = none := by simp [trial.targets_eq]
  have awaits : course.pool.Awaits (trial.happening (.settled entry.1)) :=
    List.lookup_isSome_iff.mpr ⟨entry, flies, beq_self_eq_true entry.1⟩
  rw [trial.pool_turn]
  exact (Pool.lessens_next ends _ _ _ reached.sound.issued_le).2 awaits

/-- If its probes come to an end one after the other, a pool is done some time. -/
theorem exists_isDone (reached : trial.Reaches course) :
    ∃ final, trial.Reaches final ∧ final.pool.isDone ∧ final.isCancelled = course.isCancelled := by
  induction left : course.pool.left trial.sequence.length using Nat.strongRecOn
    generalizing course with
  | ind left inductionHypothesis =>
      cases isDone : course.pool.isDone with
      | true => exact ⟨course, reached, isDone, rfl⟩
      | false =>
          obtain ⟨entry, flies⟩ := List.exists_mem_of_ne_nil course.pool.inFlight
            (by simpa [Pool.isDone] using isDone)
          have less := reached.left_turn_lt flies
          obtain ⟨final, reaches, ends, same⟩ := inductionHypothesis _ (left ▸ less)
            (reached.turned isDone (.settled entry.1) false) rfl
          exact ⟨final, reaches, ends, same.trans (Bool.or_false _)⟩

end Trial.Reaches

/-- A scan with listed targets can take a course to its end without being cancelled. -/
theorem Scan.exists_takes {τ : Type} {scan : Scan τ} {sequence : List τ}
    (lists : scan.targets = fun position => sequence[position]?) :
    ∃ course, scan.Takes course ∧ course.pool.isDone ∧ course.isCancelled = false := by
  let trial : Trial τ := { scan, sequence, targets_eq := lists, script := fun _ => {} }
  have begun : trial.Reaches (trial.proceed false trial.fresh) := .begun false
  obtain ⟨final, reached, isDone, goesOn⟩ := begun.exists_isDone
  exact ⟨final, ⟨trial, rfl, reached⟩, isDone, goesOn⟩

/-- A scan lists its targets in one way. -/
theorem Trial.sequence_eq {τ : Type} (trial : Trial τ) {sequence : List τ}
    (lists : trial.scan.targets = fun position => sequence[position]?) :
    trial.sequence = sequence := by
  apply List.ext_getElem?
  intro position
  rw [← congrFun lists position, trial.targets_eq]

theorem Scan.Takes.covers {τ : Type} {scan : Scan τ} {course : Course τ} {sequence : List τ}
    (takes : scan.Takes course) (lists : scan.targets = fun position => sequence[position]?) :
    course.Covers sequence := by
  obtain ⟨trial, rfl, reached⟩ := takes
  exact trial.sequence_eq lists ▸ reached.covers

end Probe

end FieldSurvey
