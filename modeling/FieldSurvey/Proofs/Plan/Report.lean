import FieldSurvey.Plan
import FieldSurvey.Proofs.Port.Texts

/-!
# What a plan reports

A plan reports its ranges in written form, in place of the texts that the request came with.  These
texts are read as the ranges that they were written from, and to resolve the reported request once
more changes nothing: what was derived is now named, and the container host is merged into ranges
that hold it already.
-/

namespace FieldSurvey

namespace Address.Range

variable {range : Range} {ranges others : List Range} {address : V4}

theorem holds_map_bare : Holds (ranges.map bare) address ↔ Holds ranges address := by
  simp only [Holds, List.mem_map, exists_exists_and_eq_and]
  rfl

theorem holds_append :
    Holds (ranges ++ others) address ↔ Holds ranges address ∨ Holds others address := by
  simp only [Holds, List.mem_append, or_and_right, exists_or]

theorem eq_nil_of_not_holds (nothing : ∀ address, ¬Holds ranges address) : ranges = [] := by
  cases ranges with
  | nil => rfl
  | cons range rest =>
      have lowest : range.contains range.low :=
        contains_iff.mpr ⟨Nat.le_refl _, range.low_le_high⟩
      exact absurd (holds_cons.mpr (Or.inl lowest)) (nothing range.low)

theorem merge_eq_nil_iff : merge ranges = [] ↔ ranges = [] := by
  constructor
  · intro nothing
    apply eq_nil_of_not_holds
    intro address
    rw [← holds_merge, nothing]
    exact not_holds_nil
  · rintro rfl
    exact Separate.merge_eq .nil

/-- Ranges with the same bounds are the same but for the interfaces that they name. -/
theorem map_bare_eq_of_map_interval_eq (same : ranges.map interval = others.map interval) :
    ranges.map bare = others.map bare := by
  induction ranges generalizing others with
  | nil =>
      rw [List.map_eq_nil_iff.mp same.symm]
  | cons range rest ih =>
      cases others with
      | nil => contradiction
      | cons other others =>
          obtain ⟨first, later⟩ := List.cons.inj same
          obtain ⟨low, high⟩ := Prod.mk.inj first
          have bare_eq : range.bare = other.bare := eq_bare low high rfl
          rw [List.map_cons, List.map_cons, bare_eq, ih later]

/-- Lists of ranges that hold the same addresses are merged into the same ranges. -/
theorem map_bare_merge_eq (same : ∀ address, Holds ranges address ↔ Holds others address) :
    (merge ranges).map bare = (merge others).map bare := by
  apply map_bare_eq_of_map_interval_eq
  apply (separate_merge ranges).map_interval_eq (separate_merge others)
  intro address
  rw [holds_merge, holds_merge, same]

theorem format_map_bare (ranges : List Range) : format (ranges.map bare) = format ranges := by
  rw [format, List.map_map]
  rfl

theorem total_map_bare (ranges : List Range) : total (ranges.map bare) = total ranges := by
  induction ranges with
  | nil => rfl
  | cons range rest ih => exact congrArg (range.count + ·) ih

end Address.Range

namespace Plan

open Address.Range (Holds bare merge)
open Model (Mode Request ScanConfig)

variable {config : ScanConfig} {mode : Mode} {surroundings : Surroundings}

/-! ## Texts of ranges -/

theorem nonempty?_eq_some_iff {α : Type} {outcome : Except ParseError (List α)}
    {ranges : List α} : nonempty? outcome = some ranges ↔ outcome = .ok ranges ∧ ranges ≠ [] := by
  unfold nonempty?
  split
  case h_1 => simp
  case h_2 other filled =>
    constructor
    · intro same
      cases same
      exact ⟨rfl, filled⟩
    · rintro ⟨same, -⟩
      rw [Except.ok.inj same]
  case h_3 => simp

/-- Whether a text, if there is one, names ranges. -/
def Names {α : Type} (parse : String → Except ParseError (List α)) (text? : Option String)
    (ranges : List α) : Prop :=
  ∃ text, text? = some text ∧ parse text = .ok ranges ∧ ranges ≠ []

section Named

variable {α : Type} {parse : String → Except ParseError (List α)} {text? : Option String}
  {ranges : List α}

theorem named_eq_some_iff : (text?.bind fun text => nonempty? (parse text)) = some ranges ↔
    Names parse text? ranges := by
  simp only [Option.bind_eq_some_iff, nonempty?_eq_some_iff, Names]

theorem named_eq_none_iff : (text?.bind fun text => nonempty? (parse text)) = none ↔
    ¬∃ ranges, Names parse text? ranges := by
  simp only [← named_eq_some_iff, Option.eq_none_iff_forall_ne_some, not_exists, ne_eq]

theorem named_isSome_iff : (text?.bind fun text => nonempty? (parse text)).isSome ↔
    ∃ ranges, Names parse text? ranges := by
  rw [Option.isSome_iff_ne_none, Ne, named_eq_none_iff, not_not]

theorem named_ne_some_nil : (text?.bind fun text => nonempty? (parse text)) ≠ some [] := by
  intro named
  obtain ⟨_, -, -, filled⟩ := named_eq_some_iff.mp named
  exact filled rfl

end Named

/-- If a plan has no ranges, then its mode has none. -/
theorem eq_nil_of_getD_eq_nil {α : Type} {explicit? : Option (List α)} {derived : List α}
    (filled : explicit? ≠ some []) (nothing : explicit?.getD derived = []) : derived = [] := by
  cases explicit? with
  | none => exact nothing
  | some ranges => exact absurd (congrArg some nothing) filled

/-- Ranges are found again in the text that reports them, and none are found where none are
reported. -/
theorem bind_written {α : Type} {parse : String → Except ParseError (List α)}
    {format : List α → String} {ranges others : List α}
    (reads : parse (format ranges) = .ok others) (filled : ranges ≠ [] → others ≠ []) :
    (written format ranges).bind (fun text => nonempty? (parse text)) =
      if ranges = [] then none else some others := by
  unfold written
  cases ranges with
  | nil => rfl
  | cons range rest =>
      rw [if_neg (List.cons_ne_nil range rest)]
      exact nonempty?_eq_some_iff.mpr ⟨reads, filled (List.cons_ne_nil range rest)⟩

theorem written_eq_of_map_bare_eq {ranges others : List Address.Range}
    (same : ranges.map bare = others.map bare) :
    written Address.Range.format ranges = written Address.Range.format others := by
  have both : ∀ ranges : List Address.Range, written Address.Range.format ranges =
      written Address.Range.format (ranges.map bare) := by
    intro ranges
    rw [written, written, Address.Range.format_map_bare, List.isEmpty_map]
  rw [both ranges, both others, same]

theorem usable_portsOf (mode : Mode) : ∀ range ∈ portsOf mode, 0 < range.lower := by
  cases mode <;> decide

/-! ## Resolving -/

/-- The addresses of a plan before they are merged. -/
def unmerged (mode : Mode) (config : ScanConfig) (surroundings : Surroundings) :
    List Address.Range :=
  (explicitAddresses? config).getD (addressesOf mode surroundings.interfaces) ++
    containerRange mode surroundings

/-- A request without parameters is resolved like one that is switched off and names no ranges. -/
theorem resolve_of_config_eq_none {request : Request} (missing : request.config = none) :
    resolve request surroundings =
      ofConfig { request with mode := some .off } {} surroundings := by
  have nothing : merge ([] ++ []) = [] := Address.Range.merge_eq_nil_iff.mpr rfl
  simp only [resolve, missing, ofConfig, modeOf, explicitAddresses?, explicitPorts?,
    Option.bind_none, Option.getD_none, addressesOf, portsOf, containerRange, Mode.isScanning,
    Bool.false_eq_true, if_false, nothing]
  rfl

theorem exists_ofConfig (request : Request) (surroundings : Surroundings) :
    ∃ first config, resolve request surroundings = ofConfig first config surroundings := by
  cases given : request.config with
  | none => exact ⟨_, _, resolve_of_config_eq_none given⟩
  | some config => exact ⟨request, config, by rw [resolve, given]⟩

-- The request that a plan reports is resolved by the same lemmas, with the reported parameters in
-- place of those that were given.
section Resolved

variable {request : Request} {plan : Plan}
  (resolved : plan = ofConfig request config surroundings)

include resolved

theorem addressRanges_eq :
    plan.addressRanges = merge (unmerged plan.mode config surroundings) := by
  rw [resolved]
  rfl

theorem portRanges_eq :
    plan.portRanges = (explicitPorts? config).getD (portsOf plan.mode) := by
  rw [resolved]
  rfl

theorem config_eq : plan.config =
    { withDefaults config with
      addressRanges := written Address.Range.format plan.addressRanges
      portRanges := written Port.Range.format plan.portRanges } := by
  rw [resolved]
  rfl

theorem request_eq :
    plan.request = { request with mode := some plan.mode, config := some plan.config } := by
  rw [resolved]
  rfl

theorem usable_portRanges : ∀ range ∈ plan.portRanges, 0 < range.lower := by
  rw [portRanges_eq resolved]
  cases explicit : explicitPorts? config with
  | none => exact usable_portsOf plan.mode
  | some ranges =>
      obtain ⟨text, -, read, -⟩ := named_eq_some_iff.mp explicit
      exact Port.Range.usable_of_parse read

theorem explicitAddresses?_config : explicitAddresses? plan.config =
    if plan.addressRanges = [] then none else some (plan.addressRanges.map bare) := by
  rw [config_eq resolved]
  exact bind_written (Address.Range.parse_format _) (mt List.map_eq_nil_iff.mp)

theorem explicitPorts?_config : explicitPorts? plan.config =
    if plan.portRanges = [] then none else some plan.portRanges := by
  have reads := Port.Range.parse_format (usable_portRanges resolved)
  rw [config_eq resolved]
  exact bind_written reads fun filled => filled

theorem ports_again : (explicitPorts? plan.config).getD (portsOf plan.mode) = plan.portRanges := by
  rw [explicitPorts?_config resolved]
  split
  case isTrue nothing =>
    have first := (portRanges_eq resolved).symm.trans nothing
    rw [nothing]
    exact eq_nil_of_getD_eq_nil named_ne_some_nil first
  case isFalse => rfl

/-- To read the reported ranges of addresses adds nothing and leaves nothing out. -/
theorem holds_unmerged_again (address : Address.V4) :
    Holds (unmerged plan.mode plan.config surroundings) address ↔
      Holds (unmerged plan.mode config surroundings) address := by
  have merged := addressRanges_eq resolved
  have same : Holds plan.addressRanges address ↔
      Holds (unmerged plan.mode config surroundings) address := by
    rw [merged, Address.Range.holds_merge]
  rw [← same, unmerged, explicitAddresses?_config resolved]
  split
  case isTrue nothing =>
    -- the mode has no addresses either, since they were merged into none
    have both := Address.Range.merge_eq_nil_iff.mp (merged.symm.trans nothing)
    obtain ⟨first, host⟩ := List.append_eq_nil_iff.mp both
    have derived := eq_nil_of_getD_eq_nil named_ne_some_nil first
    rw [nothing, host, Option.getD_none, derived]
    rfl
  case isFalse =>
    -- the container host is merged into the ranges already
    rw [Option.getD_some, Address.Range.holds_append, Address.Range.holds_map_bare]
    constructor
    · rintro (held | isHost)
      · exact held
      · exact same.mpr (Address.Range.holds_append.mpr (Or.inr isHost))
    · exact Or.inl

end Resolved

/-! ## What is reported -/

/-- A plan reports the ranges that it has. -/
structure Reports (plan : Plan) : Prop where
  mode : plan.request.mode = some plan.mode
  config : plan.request.config = some plan.config
  addressText : plan.config.addressRanges = none ↔ plan.addressRanges = []
  addresses : ∀ text, plan.config.addressRanges = some text →
    Address.Range.parse text = .ok (plan.addressRanges.map bare)
  portText : plan.config.portRanges = none ↔ plan.portRanges = []
  ports : ∀ text, plan.config.portRanges = some text →
    Port.Range.parse text = .ok plan.portRanges
  total : plan.totalAddresses = {address | Holds plan.addressRanges address}.ncard

/-- Two plans agree in all but the interfaces that their ranges name. -/
structure Agrees (plan other : Plan) : Prop where
  request : other.request = plan.request
  mode : other.mode = plan.mode
  config : other.config = plan.config
  addressRanges : other.addressRanges.map bare = plan.addressRanges.map bare
  portRanges : other.portRanges = plan.portRanges
  containerHost : other.containerHost = plan.containerHost
  totalAddresses : other.totalAddresses = plan.totalAddresses
  totalPorts : other.totalPorts = plan.totalPorts

theorem written_eq_none_iff {α : Type} {format : List α → String} {ranges : List α} :
    written format ranges = none ↔ ranges = [] := by
  unfold written
  cases ranges <;> simp

theorem eq_format_of_written {α : Type} {format : List α → String} {ranges : List α}
    {text : String} (reported : written format ranges = some text) : text = format ranges := by
  unfold written at reported
  split at reported
  · contradiction
  · exact (Option.some.inj reported).symm

theorem reports_of_resolved {request : Request} {plan : Plan}
    (resolved : plan = ofConfig request config surroundings) : plan.Reports := by
  have same := config_eq resolved
  constructor
  case mode => rw [request_eq resolved]
  case config => rw [request_eq resolved]
  case addressText =>
    rw [same]
    exact written_eq_none_iff
  case addresses =>
    intro text reported
    rw [same] at reported
    rw [eq_format_of_written reported, Address.Range.parse_format]
  case portText =>
    rw [same]
    exact written_eq_none_iff
  case ports =>
    intro text reported
    rw [same] at reported
    rw [eq_format_of_written reported, Port.Range.parse_format (usable_portRanges resolved)]
  case total =>
    rw [totalAddresses, addressRanges_eq resolved]
    exact (Address.Range.separate_merge _).total_eq_ncard

/-- To resolve a resolved request changes nothing. -/
theorem agrees_of_resolved {request : Request} {plan : Plan}
    (resolved : plan = ofConfig request config surroundings) :
    plan.Agrees (resolve plan.request surroundings) := by
  have given := (reports_of_resolved resolved).config
  have again : resolve plan.request surroundings =
      ofConfig plan.request plan.config surroundings := by
    rw [resolve, given]
  generalize resolve plan.request surroundings = other at again
  have mode : other.mode = plan.mode := by
    have named := (reports_of_resolved resolved).mode
    rw [again, ofConfig, named]
    rfl
  have addressRanges : other.addressRanges.map bare = plan.addressRanges.map bare := by
    rw [addressRanges_eq again, addressRanges_eq resolved, mode]
    exact Address.Range.map_bare_merge_eq (holds_unmerged_again resolved)
  have portRanges : other.portRanges = plan.portRanges := by
    rw [portRanges_eq again, mode, ports_again resolved]
  have config : other.config = plan.config := by
    rw [config_eq again, written_eq_of_map_bare_eq addressRanges, portRanges, config_eq resolved]
    rfl
  refine ⟨?_, mode, config, addressRanges, portRanges, ?_, ?_, ?_⟩
  · rw [request_eq again, mode, config, request_eq resolved]
  · rw [again, resolved]
    rfl
  · rw [totalAddresses, ← Address.Range.total_map_bare, addressRanges,
      Address.Range.total_map_bare, totalAddresses]
  · rw [totalPorts, portRanges, totalPorts]

end Plan

/-- The plan of a job reports its ranges: each text is read as the ranges of the plan and is missing
just if there are none, and the number of addresses counts each of them once.  To resolve the
request that the plan reports changes nothing, and neither does it to renew the job. -/
theorem reported_request_is_the_plan (request : Model.Request) (surroundings : Surroundings) :
    let job := Job.ofRequest request surroundings
    job.plan.Reports ∧
      job.plan.Agrees (Job.ofRequest job.plan.request surroundings).plan ∧
      ∀ n, (Job.renew^[n] job).plan = job.plan := by
  intro job
  obtain ⟨first, config, resolved⟩ := Plan.exists_ofConfig request surroundings
  refine ⟨Plan.reports_of_resolved resolved, Plan.agrees_of_resolved resolved, fun n => ?_⟩
  induction n with
  | zero => rfl
  | succ n ih => rw [Function.iterate_succ_apply', Job.renew, ih]

end FieldSurvey
