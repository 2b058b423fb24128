import FieldSurvey.Proofs.Probe.Regulation
import Mathlib.Data.List.Induction
import Mathlib.Tactic.Ring

/-!
# The floor and the window of an adaptive pool

The floor of an adaptive pool is meant to be a share of its maximum, rounded down, and at least
one probe.  A hundredfold of the share is formed in words of 64 bits.  So the floor is what it is
meant to be exactly as long as the product of the maximum and the percentage fits into a word.
Beyond that, checked arithmetic forms no pool at all, and arithmetic without checks forms a floor
that is a share of what is left of the product.

Between its floor and its maximum the limit of a pool follows the latest verdicts.  Window and
count are kept up to date one verdict at a time, and always are what the latest verdicts say.
-/

namespace FieldSurvey.Probe.PoolConfig

/-! ## The floor that is meant -/

/-- A hundred times the share of a maximum, in numbers without bound. -/
def hundredfoldShare (maxProbes percent : Nat) : Nat :=
  max 1 maxProbes * min percent 100

/-- The floor that a maximum and a percentage stand for. -/
def intendedFloor (maxProbes percent : Nat) : Nat :=
  max 1 (hundredfoldShare maxProbes percent / 100)

theorem hundredfoldShare_le (maxProbes percent : Nat) :
    hundredfoldShare maxProbes percent ≤ max 1 maxProbes * 100 :=
  Nat.mul_le_mul_left _ (Nat.min_le_right percent 100)

theorem hundredfoldShare_mono {fewer more : Nat} (le : fewer ≤ more) (percent : Nat) :
    hundredfoldShare fewer percent ≤ hundredfoldShare more percent :=
  Nat.mul_le_mul_right _ (by omega)

theorem intendedFloor_mono {fewer more : Nat} (le : fewer ≤ more) (percent : Nat) :
    intendedFloor fewer percent ≤ intendedFloor more percent := by
  have shares := Nat.div_le_div_right (c := 100) (hundredfoldShare_mono le percent)
  unfold intendedFloor
  omega

/-! ## The floor that is formed -/

section Adaptive

variable (maxProbes : UInt64) (percent : UInt32) (timeout : Nat)

theorem toNat_maxProbes_adaptive :
    (adaptive maxProbes percent timeout).maxProbes.toNat = max 1 maxProbes.toNat := by
  have one : (1 : UInt64).toNat = 1 := rfl
  simp only [adaptive, withShare, toNat_max, one, Nat.max_comm]

/-- The percentage that is multiplied with the maximum, which is at most a hundred. -/
theorem toNat_percentage : (min percent 100).toUInt64.toNat = min percent.toNat 100 := by
  have hundred : (100 : UInt32).toNat = 100 := rfl
  rw [UInt32.toNat_toUInt64]
  change (if percent ≤ 100 then percent else 100).toNat = _
  split <;> rename_i order <;> rw [UInt32.le_iff_toNat_le] at order <;> omega

/-- The numbers that are multiplied are those that the share is meant to be formed from. -/
theorem toNat_factors : (max maxProbes 1).toNat * (min percent 100).toUInt64.toNat =
    hundredfoldShare maxProbes.toNat percent.toNat := by
  have one : (1 : UInt64).toNat = 1 := rfl
  rw [toNat_max, toNat_percentage, one, Nat.max_comm, hundredfoldShare]

/-- The floor is formed from what a word holds of the product. -/
theorem toNat_minProbes_adaptive :
    (adaptive maxProbes percent timeout).minProbes.toNat =
      max 1 (hundredfoldShare maxProbes.toNat percent.toNat % UInt64.size / 100) := by
  have one : (1 : UInt64).toNat = 1 := rfl
  have hundred : (100 : UInt64).toNat = 100 := rfl
  have size : UInt64.size = 2 ^ 64 := rfl
  have within := hundredfoldShare_le maxProbes.toNat percent.toNat
  have wrapped := Nat.mod_le (hundredfoldShare maxProbes.toNat percent.toNat) (2 ^ 64)
  rw [adaptive, withShare, toNat_min, toNat_max, UInt64.toNat_div, UInt64.toNat_mul,
    toNat_factors, toNat_max, one, hundred, size]
  omega

/-- No floor that is formed from a product beyond a word is the one that is meant: a share of
what is left of the product is smaller. -/
theorem minProbes_adaptive_eq_iff :
    (adaptive maxProbes percent timeout).minProbes.toNat =
        intendedFloor maxProbes.toNat percent.toNat ↔
      hundredfoldShare maxProbes.toNat percent.toNat < UInt64.size := by
  have size : UInt64.size = 2 ^ 64 := rfl
  rw [toNat_minProbes_adaptive, intendedFloor, size]
  constructor
  · intro same
    by_contra beyond
    have left := Nat.mod_lt (hundredfoldShare maxProbes.toNat percent.toNat)
      (show 0 < 2 ^ 64 by decide)
    have lost : hundredfoldShare maxProbes.toNat percent.toNat % 2 ^ 64 + 2 ^ 64 ≤
        hundredfoldShare maxProbes.toNat percent.toNat := by
      have whole := Nat.mod_add_div (hundredfoldShare maxProbes.toNat percent.toNat) (2 ^ 64)
      have some : 1 ≤ hundredfoldShare maxProbes.toNat percent.toNat / 2 ^ 64 :=
        (Nat.one_le_div_iff (by decide)).mpr (Nat.le_of_not_lt beyond)
      omega
    omega
  · intro fits
    rw [Nat.mod_eq_of_lt fits]

/-- Checked arithmetic forms the pool that arithmetic without checks forms, or none. -/
theorem adaptive?_eq :
    adaptive? maxProbes percent timeout =
      if hundredfoldShare maxProbes.toNat percent.toNat < UInt64.size then
        some (adaptive maxProbes percent timeout)
      else none := by
  simp only [adaptive?, product?, toNat_factors]
  split <;> rfl

theorem adaptive?_eq_none_iff :
    adaptive? maxProbes percent timeout = none ↔
      UInt64.size ≤ hundredfoldShare maxProbes.toNat percent.toNat := by
  rw [adaptive?_eq, ← Nat.not_lt]
  split <;> rename_i fits <;> simp [fits]

end Adaptive

variable {maxProbes : UInt64} {percent : UInt32} {timeout : Nat} {config : PoolConfig}

theorem adaptive?_eq_some_iff :
    adaptive? maxProbes percent timeout = some config ↔
      hundredfoldShare maxProbes.toNat percent.toNat < UInt64.size ∧
        adaptive maxProbes percent timeout = config := by
  rw [adaptive?_eq]
  split <;> rename_i fits <;> simp [fits]

/-- A pool with the floor that a maximum and a percentage stand for.  Every smaller maximum forms
a pool as well, whose floor is no higher. -/
structure HasIntendedFloor (maxProbes : UInt64) (percent : UInt32) (timeout : Nat)
    (config : PoolConfig) : Prop where
  most : config.maxProbes.toNat = max 1 maxProbes.toNat
  floor : config.minProbes.toNat = intendedFloor maxProbes.toNat percent.toNat
  pos : 1 ≤ config.minProbes
  le : config.minProbes ≤ config.maxProbes
  mono : ∀ fewer ≤ maxProbes, ∃ smaller, adaptive? fewer percent timeout = some smaller ∧
    smaller.minProbes ≤ config.minProbes

/-- A pool has a floor of at least one probe, and no more than its maximum, whether or not its
arithmetic is checked. -/
theorem bounds_adaptive (maxProbes : UInt64) (percent : UInt32) (timeout : Nat) :
    1 ≤ (adaptive maxProbes percent timeout).minProbes ∧
    (adaptive maxProbes percent timeout).minProbes ≤
      (adaptive maxProbes percent timeout).maxProbes := by
  obtain ⟨pos, le⟩ := (IsMade.adaptive maxProbes percent timeout).bounds
  exact ⟨UInt64.le_iff_toNat_le.mpr pos, UInt64.le_iff_toNat_le.mpr le⟩

/-- Every pool that checked arithmetic forms has the floor that is meant. -/
theorem hasIntendedFloor (formed : adaptive? maxProbes percent timeout = some config) :
    HasIntendedFloor maxProbes percent timeout config := by
  obtain ⟨fits, rfl⟩ := adaptive?_eq_some_iff.mp formed
  obtain ⟨pos, le⟩ := bounds_adaptive maxProbes percent timeout
  have floor := (minProbes_adaptive_eq_iff maxProbes percent timeout).mpr fits
  refine ⟨toNat_maxProbes_adaptive maxProbes percent timeout, floor, pos, le, ?_⟩
  intro fewer below
  have below := UInt64.le_iff_toNat_le.mp below
  have fewerFits := (hundredfoldShare_mono below percent.toNat).trans_lt fits
  refine ⟨_, adaptive?_eq_some_iff.mpr ⟨fewerFits, rfl⟩, ?_⟩
  rw [UInt64.le_iff_toNat_le, (minProbes_adaptive_eq_iff fewer percent timeout).mpr fewerFits,
    floor]
  exact intendedFloor_mono below percent.toNat

/-- Checked arithmetic forms an adaptive pool exactly if the product of its maximum and its
percentage fits into a word, and the pool then has the floor that is meant.  Otherwise it stops,
and arithmetic without checks forms another floor, which is still at least one and no more than the
maximum. -/
theorem intended_floor_iff (maxProbes : UInt64) (percent : UInt32) (timeout : Nat) :
    ((∃ config, adaptive? maxProbes percent timeout = some config ∧
        HasIntendedFloor maxProbes percent timeout config) ↔
      hundredfoldShare maxProbes.toNat percent.toNat < UInt64.size) ∧
    (adaptive? maxProbes percent timeout = none ↔
      UInt64.size ≤ hundredfoldShare maxProbes.toNat percent.toNat) ∧
    ((adaptive maxProbes percent timeout).minProbes.toNat =
        intendedFloor maxProbes.toNat percent.toNat ↔
      hundredfoldShare maxProbes.toNat percent.toNat < UInt64.size) ∧
    (adaptive maxProbes percent timeout).maxProbes.toNat = max 1 maxProbes.toNat ∧
    1 ≤ (adaptive maxProbes percent timeout).minProbes ∧
    (adaptive maxProbes percent timeout).minProbes ≤
      (adaptive maxProbes percent timeout).maxProbes := by
  refine ⟨⟨?_, fun fits => ?_⟩, adaptive?_eq_none_iff maxProbes percent timeout,
    minProbes_adaptive_eq_iff maxProbes percent timeout,
    toNat_maxProbes_adaptive maxProbes percent timeout,
    bounds_adaptive maxProbes percent timeout⟩
  · rintro ⟨config, formed, -⟩
    exact (adaptive?_eq_some_iff.mp formed).1
  · have formed : adaptive? maxProbes percent timeout = some _ :=
      adaptive?_eq_some_iff.mpr ⟨fits, rfl⟩
    exact ⟨_, formed, hasIntendedFloor formed⟩

/-- Checked arithmetic stops before it forms a pool that is to keep all of its probes.  Without
checks the pool keeps a single one: of a hundred times its maximum a word holds 84. -/
theorem floor_lost_beyond_a_word :
    adaptive? 184467440737095517 100 1000 = none ∧
      (adaptive 184467440737095517 100 1000).minProbes = 1 ∧
      intendedFloor (184467440737095517 : UInt64).toNat (100 : UInt32).toNat =
        184467440737095517 := by
  decide

end FieldSurvey.Probe.PoolConfig

/-! ## Natural numbers among ratios -/

namespace FieldSurvey.Number.Ratio

/-- A ratio that stands for a natural number. -/
structure IsWhole (ratio : Ratio) (value : Nat) : Prop where
  denominator_pos : 0 < ratio.denominator
  numerator_eq : ratio.numerator = value * ratio.denominator

namespace IsWhole

variable {ratio other : Ratio} {value factor : Nat}

theorem of_nat (value : Nat) : ({ numerator := value } : Ratio).IsWhole value :=
  ⟨Nat.one_pos, (Nat.mul_one value).symm⟩

theorem mul (whole : ratio.IsWhole value) (otherWhole : other.IsWhole factor) :
    (ratio.mul other).IsWhole (value * factor) where
  denominator_pos := Nat.mul_pos whole.denominator_pos otherWhole.denominator_pos
  numerator_eq := by
    change ratio.numerator * other.numerator =
      value * factor * (ratio.denominator * other.denominator)
    rw [whole.numerator_eq, otherWhole.numerator_eq]
    ring

theorem rounded (whole : ratio.IsWhole value) : ratio.rounded = value := by
  have positive := whole.denominator_pos
  have split : 2 * ratio.numerator + ratio.denominator =
      ratio.denominator + 2 * ratio.denominator * value := by
    rw [whole.numerator_eq]
    ring
  rw [Ratio.rounded, split, Nat.add_mul_div_left _ _ (by omega), Nat.div_eq_of_lt (by omega),
    Nat.zero_add]

theorem roundedToEven (whole : ratio.IsWhole value) : ratio.roundedToEven = value := by
  have positive := whole.denominator_pos
  have quotient : ratio.numerator / ratio.denominator = value := by
    rw [whole.numerator_eq, Nat.mul_div_cancel _ positive]
  have remainder : ratio.numerator % ratio.denominator = 0 := by
    rw [whole.numerator_eq, Nat.mul_mod_left]
  simp only [Ratio.roundedToEven, quotient, remainder, Nat.mul_zero, if_pos positive]

theorem shifted_up (whole : ratio.IsWhole value) (places : Nat) :
    (ratio.shifted places).IsWhole (value * 2 ^ places) where
  denominator_pos := Nat.mul_pos whole.denominator_pos (Nat.two_pow_pos _)
  numerator_eq := by
    have down : (-(places : Int)).toNat = 0 := by omega
    change ratio.numerator * 2 ^ places =
      value * 2 ^ places * (ratio.denominator * 2 ^ (-(places : Int)).toNat)
    rw [down, whole.numerator_eq]
    ring

theorem shifted_down {places : Nat} (whole : ratio.IsWhole (value * 2 ^ places)) :
    (ratio.shifted (-places)).IsWhole value where
  denominator_pos := Nat.mul_pos whole.denominator_pos (Nat.two_pow_pos _)
  numerator_eq := by
    have up : (-(places : Int)).toNat = 0 := by omega
    have down : (- -(places : Int)).toNat = places := by omega
    change ratio.numerator * 2 ^ (-(places : Int)).toNat =
      value * (ratio.denominator * 2 ^ (- -(places : Int)).toNat)
    rw [up, down, whole.numerator_eq]
    ring

theorem zero_shifted (whole : ratio.IsWhole 0) (exponent : Int) :
    (ratio.shifted exponent).IsWhole 0 where
  denominator_pos := Nat.mul_pos whole.denominator_pos (Nat.two_pow_pos _)
  numerator_eq := by
    change ratio.numerator * _ = _
    rw [whole.numerator_eq, Nat.zero_mul, Nat.zero_mul, Nat.zero_mul]

/-- The whole part of a natural number that is moved by a power of two. -/
theorem whole_shifted (whole : ratio.IsWhole value) (exponent : Int) :
    (ratio.shifted exponent).numerator / (ratio.shifted exponent).denominator =
      value * 2 ^ exponent.toNat / 2 ^ (-exponent).toNat := by
  change ratio.numerator * 2 ^ exponent.toNat /
    (ratio.denominator * 2 ^ (-exponent).toNat) = _
  rw [whole.numerator_eq, Nat.mul_comm value, Nat.mul_assoc,
    Nat.mul_div_mul_left _ _ whole.denominator_pos]

/-- Where the highest bits of a product are. -/
theorem log2_mul {first second : Nat} (firstPos : 0 < first) (secondPos : 0 < second) :
    (first * second).log2 = first.log2 + second.log2 ∨
      (first * second).log2 = first.log2 + second.log2 + 1 := by
  have nonzero : first * second ≠ 0 := (Nat.mul_pos firstPos secondPos).ne'
  have least : first.log2 + second.log2 ≤ (first * second).log2 := by
    rw [Nat.le_log2 nonzero, Nat.pow_add]
    exact Nat.mul_le_mul (Nat.log2_self_le firstPos.ne') (Nat.log2_self_le secondPos.ne')
  have most : (first * second).log2 < first.log2 + second.log2 + 2 := by
    have split : first.log2 + second.log2 + 2 = (first.log2 + 1) + (second.log2 + 1) := by omega
    rw [Nat.log2_lt nonzero, split, Nat.pow_add]
    exact Nat.mul_lt_mul'' Nat.lt_log2_self Nat.lt_log2_self
  omega

/-- A natural number whose highest bit is moved to the highest of 53 has no bit beyond. -/
theorem aligned_lt (bounded : value.log2 ≤ 53) (le : value ≤ 2 ^ 53) :
    value * 2 ^ (52 - (value.log2 : Int)).toNat / 2 ^ (-(52 - (value.log2 : Int))).toNat <
      2 ^ 53 := by
  by_cases full : value.log2 = 53
  · rw [full]
    change value * 2 ^ 0 / 2 ^ 1 < 2 ^ 53
    omega
  · have none : (-(52 - (value.log2 : Int))).toNat = 0 := by omega
    have some : (52 - (value.log2 : Int)).toNat = 52 - value.log2 := by omega
    have split : 53 = value.log2 + 1 + (52 - value.log2) := by omega
    rw [none, some, Nat.pow_zero, Nat.div_one]
    calc value * 2 ^ (52 - value.log2)
        < 2 ^ (value.log2 + 1) * 2 ^ (52 - value.log2) :=
          Nat.mul_lt_mul_of_pos_right Nat.lt_log2_self (Nat.two_pow_pos _)
      _ = 2 ^ 53 := by rw [← Nat.pow_add, ← split]

/-- A natural number of at most 53 bits, or 2⁵³ itself, is scaled by its highest bit. -/
theorem scale_eq (whole : ratio.IsWhole value) (positive : 0 < value) (le : value ≤ 2 ^ 53) :
    ratio.scale = 52 - (value.log2 : Int) := by
  have highest : 2 ^ value.log2 ≤ value := Nat.log2_self_le positive.ne'
  have bounded : value.log2 ≤ 53 := by
    by_contra beyond
    have more : 2 ^ 54 ≤ 2 ^ value.log2 := Nat.pow_le_pow_right (by decide) (by omega)
    omega
  have places : ratio.numerator.log2 = value.log2 + ratio.denominator.log2 ∨
      ratio.numerator.log2 = value.log2 + ratio.denominator.log2 + 1 := by
    rw [whole.numerator_eq]
    exact log2_mul positive whole.denominator_pos
  have precision : Nat.pow 2 Ratio.precision = 2 ^ 53 := rfl
  simp only [Ratio.scale, whole.whole_shifted, precision]
  rcases places with places | places
  · -- the first guess has one bit too many
    obtain ⟨exponent, sum⟩ := Nat.exists_eq_add_of_le bounded
    have guess : (Ratio.precision : Int) + ratio.denominator.log2 - ratio.numerator.log2 =
        exponent := by
      rw [places]
      simp only [Ratio.precision]
      omega
    have none : (-(exponent : Int)).toNat = 0 := by omega
    have reaches : 2 ^ 53 ≤ value * 2 ^ exponent := by
      rw [sum, Nat.pow_add]
      exact Nat.mul_le_mul_right _ highest
    rw [guess, Int.toNat_natCast, none, Nat.pow_zero, Nat.div_one, if_pos reaches]
    omega
  · have guess : (Ratio.precision : Int) + ratio.denominator.log2 - ratio.numerator.log2 =
        52 - (value.log2 : Int) := by
      rw [places]
      simp only [Ratio.precision]
      omega
    rw [guess, if_neg (Nat.not_le_of_lt (aligned_lt bounded le))]

/-- No natural number up to 2⁵³ is rounded. -/
theorem significant (whole : ratio.IsWhole value) (le : value ≤ 2 ^ 53) :
    ratio.significant.IsWhole value := by
  rcases Nat.eq_zero_or_pos value with rfl | positive
  · rw [Ratio.significant, (whole.zero_shifted _).roundedToEven]
    exact (of_nat 0).zero_shifted _
  · rw [Ratio.significant, whole.scale_eq positive le]
    by_cases full : value.log2 = 53
    · -- only 2⁵³ itself has that many bits, and its last bit is zero
      have highest : 2 ^ value.log2 ≤ value := Nat.log2_self_le positive.ne'
      have same : value = 2 ^ 52 * 2 ^ 1 := by
        rw [full] at highest
        omega
      subst same
      rw [full]
      change (({ numerator := (ratio.shifted (-(1 : Nat))).roundedToEven } : Ratio).shifted
        (1 : Nat)).IsWhole _
      rw [whole.shifted_down.roundedToEven]
      exact (of_nat _).shifted_up 1
    · have highest := (Nat.log2_lt positive.ne').mpr (le.trans_lt (by decide : 2 ^ 53 < 2 ^ 54))
      have exponent : 52 - (value.log2 : Int) = (52 - value.log2 : Nat) := by omega
      rw [exponent, (whole.shifted_up _).roundedToEven]
      exact (of_nat _).shifted_down

end IsWhole

end FieldSurvey.Number.Ratio

/-! ## The latest verdicts -/

namespace FieldSurvey.Probe

/-- Whether a probe was answered, if only to say no. -/
def Verdict.isAnswered (verdict : Verdict) : Bool :=
  verdict != .timedOut

namespace Limit

/-- The verdicts that a limit follows: as many of the last ones as its window holds. -/
def latest (verdicts : List Verdict) : List Verdict :=
  verdicts.drop (verdicts.length - windowSize)

/-- The limit of a pool after its probes came to an end in turn. -/
def after (most floor : Nat) (verdicts : List Verdict) : Limit :=
  verdicts.foldl record (start most floor)

/-- The limit that the latest verdicts stand for, between a floor and a maximum. -/
def levelFor (most floor : Nat) (verdicts : List Verdict) : Nat :=
  min (max (share most (verdicts.countP Verdict.isAnswered) verdicts.length) floor) most

variable {most floor : Nat} {verdicts : List Verdict} {verdict : Verdict}

theorem length_latest (verdicts : List Verdict) :
    (latest verdicts).length = min verdicts.length windowSize := by
  rw [latest, List.length_drop]
  omega

theorem length_latest_pos (some : verdicts ≠ []) : 0 < (latest verdicts).length := by
  have size : windowSize = 100 := rfl
  have positive := List.length_pos_iff.mpr some
  rw [length_latest]
  omega

/-- One more verdict takes the place of the oldest one, once the window is full. -/
theorem latest_concat (verdicts : List Verdict) (verdict : Verdict) :
    latest (verdicts ++ [verdict]) =
      if windowSize < (latest verdicts ++ [verdict]).length then
        (latest verdicts ++ [verdict]).drop 1
      else latest verdicts ++ [verdict] := by
  have joined : latest verdicts ++ [verdict] =
      (verdicts ++ [verdict]).drop (verdicts.length - windowSize) :=
    (List.drop_append_of_le_length (Nat.sub_le _ _)).symm
  have length : (latest verdicts ++ [verdict]).length = min verdicts.length windowSize + 1 := by
    rw [List.length_append, length_latest, List.length_singleton]
  rw [length, joined, List.drop_drop, latest, List.length_append, List.length_singleton]
  split
  · congr 1
    omega
  · congr 1
    omega

/-! ## What a limit keeps of its verdicts -/

/-- A limit that has taken in verdicts. -/
structure Tracks (most floor : Nat) (verdicts : List Verdict) (limit : Limit) : Prop where
  most_eq : limit.most = max most 1
  floor_eq : limit.floor = min (max floor 1) (max most 1)
  window_eq : limit.window = (latest verdicts).map Verdict.isAnswered
  answered_eq : limit.answered = (latest verdicts).countP Verdict.isAnswered
  current_eq : limit.current =
    if verdicts = [] then limit.most else levelFor limit.most limit.floor (latest verdicts)

theorem tracks_start (most floor : Nat) : Tracks most floor [] (start most floor) where
  most_eq := rfl
  floor_eq := rfl
  window_eq := rfl
  answered_eq := rfl
  current_eq := (if_pos rfl).symm

/-- The oldest verdict is counted out just if it was counted in. -/
theorem countP_drop_one (verdicts : List Verdict) :
    (verdicts.drop 1).countP Verdict.isAnswered =
      if (verdicts.map Verdict.isAnswered).head? == some true then
        verdicts.countP Verdict.isAnswered - 1
      else verdicts.countP Verdict.isAnswered := by
  cases verdicts with
  | nil => rfl
  | cons first rest =>
      cases answered : first.isAnswered with
      | true => simp [answered]
      | false => simp [answered]

/-- The count and the window keep in step: what is pushed, counted, popped and counted out leaves
the latest verdicts. -/
theorem Tracks.record_eq {limit : Limit} (tracks : Tracks most floor verdicts limit)
    (below : limit.floor ≠ limit.most) (verdict : Verdict) :
    limit.record verdict =
      { limit with
        window := (latest (verdicts ++ [verdict])).map Verdict.isAnswered
        answered := (latest (verdicts ++ [verdict])).countP Verdict.isAnswered
        current := levelFor limit.most limit.floor (latest (verdicts ++ [verdict])) } := by
  have window : limit.window ++ [verdict != .timedOut] =
      (latest verdicts ++ [verdict]).map Verdict.isAnswered := by
    rw [tracks.window_eq, List.map_append]
    rfl
  have answered : limit.answered + (if (verdict != .timedOut) = true then 1 else 0) =
      (latest verdicts ++ [verdict]).countP Verdict.isAnswered := by
    rw [tracks.answered_eq, List.countP_append, List.countP_singleton]
    rfl
  rw [record, if_neg below]
  simp only [window, answered, latest_concat, List.length_map]
  by_cases overfull : windowSize < (latest verdicts ++ [verdict]).length
  · simp only [overfull, decide_true, Bool.true_and, if_true, ← List.map_drop, ← countP_drop_one,
      levelFor, List.length_map]
  · simp only [overfull, decide_false, Bool.false_and, if_false, Bool.false_eq_true, levelFor,
      List.length_map]

theorem Tracks.record {limit : Limit} (tracks : Tracks most floor verdicts limit)
    (below : limit.floor ≠ limit.most) (verdict : Verdict) :
    Tracks most floor (verdicts ++ [verdict]) (limit.record verdict) := by
  rw [tracks.record_eq below]
  exact
    { most_eq := tracks.most_eq
      floor_eq := tracks.floor_eq
      window_eq := rfl
      answered_eq := rfl
      current_eq := (if_neg (List.append_ne_nil_of_right_ne_nil _ (List.cons_ne_nil _ _))).symm }

/-- A limit with its floor below its maximum keeps track of all verdicts. -/
theorem tracks_after (below : (start most floor).floor < (start most floor).most)
    (verdicts : List Verdict) : Tracks most floor verdicts (after most floor verdicts) := by
  induction verdicts using List.reverseRecOn with
  | nil => exact tracks_start most floor
  | append_singleton earlier verdict ih =>
      have apart : (after most floor earlier).floor ≠ (after most floor earlier).most := by
        rw [ih.floor_eq, ih.most_eq]
        exact below.ne
      rw [after, List.foldl_append, List.foldl_cons, List.foldl_nil]
      exact ih.record apart verdict

/-- A limit without room between its floor and its maximum takes in nothing. -/
theorem after_of_eq (same : (start most floor).floor = (start most floor).most)
    (verdicts : List Verdict) : after most floor verdicts = start most floor := by
  induction verdicts with
  | nil => rfl
  | cons verdict later ih =>
      have kept : (start most floor).record verdict = start most floor := if_pos same
      rw [after, List.foldl_cons, kept]
      exact ih

theorem withinBounds_after (most floor : Nat) (verdicts : List Verdict) :
    (after most floor verdicts).WithinBounds := by
  induction verdicts using List.reverseRecOn with
  | nil => exact .start most floor
  | append_singleton earlier verdict ih =>
      rw [after, List.foldl_append, List.foldl_cons, List.foldl_nil]
      exact ih.record verdict

/-! ## Shares -/

/-- If everything is answered, no maximum of at most 2⁵³ loses anything. -/
theorem share_all {count : Nat} (le : most ≤ 2 ^ 53) (some : 0 < count) :
    share most count count = most := by
  have ratio : ({ numerator := count, denominator := count } : Number.Ratio).IsWhole 1 :=
    ⟨some, (Nat.one_mul count).symm⟩
  have product := ((Number.Ratio.IsWhole.of_nat most).significant le).mul
    (ratio.significant (by decide))
  rw [Nat.mul_one] at product
  exact (product.significant le).rounded

theorem share_none {count : Nat} (le : most ≤ 2 ^ 53) (some : 0 < count) :
    share most 0 count = 0 := by
  have ratio : ({ numerator := 0, denominator := count } : Number.Ratio).IsWhole 0 :=
    ⟨some, (Nat.zero_mul count).symm⟩
  have product := ((Number.Ratio.IsWhole.of_nat most).significant le).mul
    (ratio.significant (by decide))
  rw [Nat.mul_zero] at product
  exact (product.significant (by decide)).rounded

/-! ## What a limit follows -/

/-- A limit with its floor below its maximum, after verdicts: it follows the latest of them and
nothing else. -/
structure FollowsLatest (most floor : Nat) (verdicts : List Verdict) : Prop where
  window : (after most floor verdicts).window = (latest verdicts).map Verdict.isAnswered
  length : (latest verdicts).length = min verdicts.length 100
  answered : (after most floor verdicts).answered = (latest verdicts).countP Verdict.isAnswered
  /-- whatever verdict is next, one that is counted out then was counted in -/
  countedOut : ∀ next : Verdict,
    ((after most floor verdicts).window ++ [next.isAnswered]).head? = some true →
    0 < (after most floor verdicts).answered + (if next.isAnswered then 1 else 0)
  /-- the share is that of a positive number of verdicts -/
  divisor : 0 < (after most floor verdicts).window.length
  floor_le : (start most floor).floor ≤ (after most floor verdicts).current
  current_le : (after most floor verdicts).current ≤ (start most floor).most
  forgets : ∀ others ≠ [], latest others = latest verdicts →
    (after most floor others).current = (after most floor verdicts).current
  whole : (start most floor).most ≤ 2 ^ 53 → (∀ verdict ∈ latest verdicts, verdict ≠ .timedOut) →
    (after most floor verdicts).current = (start most floor).most
  least : (start most floor).most ≤ 2 ^ 53 → (∀ verdict ∈ latest verdicts, verdict = .timedOut) →
    (after most floor verdicts).current = (start most floor).floor

/-- The head of the window is counted, or it is the next verdict. -/
theorem Tracks.countedOut {limit : Limit} (tracks : Tracks most floor verdicts limit)
    (next : Verdict) (oldest : (limit.window ++ [next.isAnswered]).head? = some true) :
    0 < limit.answered + (if next.isAnswered then 1 else 0) := by
  rw [tracks.window_eq, ← List.map_singleton, ← List.map_append, List.head?_map,
    Option.map_eq_some_iff] at oldest
  obtain ⟨verdict, first, answered⟩ := oldest
  have counted : 0 < (latest verdicts ++ [next]).countP Verdict.isAnswered :=
    List.countP_pos_iff.mpr ⟨verdict, List.mem_of_head? first, answered⟩
  rwa [List.countP_append, List.countP_singleton, ← tracks.answered_eq] at counted

theorem current_after (below : (start most floor).floor < (start most floor).most)
    (some : verdicts ≠ []) : (after most floor verdicts).current =
      levelFor (start most floor).most (start most floor).floor (latest verdicts) := by
  have tracks := tracks_after below verdicts
  rw [tracks.current_eq, if_neg some, tracks.most_eq, tracks.floor_eq]
  rfl

theorem followsLatest (below : (start most floor).floor < (start most floor).most)
    (some : verdicts ≠ []) : FollowsLatest most floor verdicts := by
  have tracks := tracks_after below verdicts
  have bounds := withinBounds_after most floor verdicts
  have positive := length_latest_pos some
  have most_eq : (after most floor verdicts).most = (start most floor).most := tracks.most_eq
  have floor_eq : (after most floor verdicts).floor = (start most floor).floor := tracks.floor_eq
  constructor
  case window => exact tracks.window_eq
  case length => exact length_latest verdicts
  case answered => exact tracks.answered_eq
  case countedOut => exact tracks.countedOut
  case divisor => rwa [tracks.window_eq, List.length_map]
  case floor_le => exact floor_eq ▸ bounds.floor_le
  case current_le => exact most_eq ▸ bounds.current_le
  case forgets =>
    intro others someOthers same
    rw [current_after below someOthers, current_after below some, same]
  case whole =>
    intro le answered
    have all : (latest verdicts).countP Verdict.isAnswered = (latest verdicts).length := by
      rw [List.countP_eq_length]
      exact fun verdict isLatest => bne_iff_ne.mpr (answered verdict isLatest)
    rw [current_after below some, levelFor, all, share_all le positive]
    omega
  case least =>
    intro le timedOut
    have none : (latest verdicts).countP Verdict.isAnswered = 0 := by
      rw [List.countP_eq_zero]
      intro verdict isLatest
      rw [timedOut verdict isLatest]
      decide
    rw [current_after below some, levelFor, none, share_none le positive]
    omega

/-- A limit whose floor is below its maximum follows the latest verdicts and nothing else; one
whose floor is its maximum never changes. -/
theorem limit_follows_latest (most floor : Nat) (verdicts : List Verdict) :
    ((start most floor).floor < (start most floor).most → verdicts ≠ [] →
      FollowsLatest most floor verdicts) ∧
    ((start most floor).floor = (start most floor).most →
      (after most floor verdicts).current = max most 1) := by
  constructor
  · exact followsLatest
  · intro same
    rw [after_of_eq same]
    rfl

/-- A limit between one and four probes, after an answer and a probe that timed out. -/
theorem small_limit_follows_latest :
    (start 4 1).floor < (start 4 1).most ∧ FollowsLatest 4 1 [.closed, .timedOut] ∧
    (start 4 9).floor = (start 4 9).most ∧ (after 4 9 [.timedOut]).current = 4 := by
  have below : (start 4 1).floor < (start 4 1).most := by decide
  have same : (start 4 9).floor = (start 4 9).most := by decide
  exact ⟨below, (limit_follows_latest 4 1 [.closed, .timedOut]).1 below (List.cons_ne_nil _ _),
    same, (limit_follows_latest 4 9 [.timedOut]).2 same⟩

end Limit

end FieldSurvey.Probe
