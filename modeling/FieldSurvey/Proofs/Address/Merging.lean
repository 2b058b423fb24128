import FieldSurvey.Address.Range
import Mathlib.Data.Set.Card

/-!
# Merged ranges

Merging sorts ranges and joins those that overlap or are adjacent.  It comes to the only list of
separate ranges in ascending order that holds the same addresses, so that nothing is lost or
invented, no address is met twice, and the order of the given ranges does not matter.
-/

namespace FieldSurvey.Address

theorem V4.eq_of_value_eq {a b : V4} (same : a.value = b.value) : a = b := by
  cases a
  cases b
  cases same
  rfl

namespace Range

variable {first second last next range : Range} {ranges rest : List Range} {address : V4}

/-! ## The addresses of ranges -/

theorem contains_iff : range.contains address ↔
    range.low.value ≤ address.value ∧ address.value ≤ range.high.value := by
  simp [contains]

/-- Whether an address lies in one of several ranges. -/
def Holds (ranges : List Range) (address : V4) : Prop :=
  ∃ range ∈ ranges, range.contains address

theorem not_holds_nil : ¬Holds [] address := by
  simp [Holds]

theorem holds_cons :
    Holds (range :: rest) address ↔ range.contains address ∨ Holds rest address := by
  simp [Holds]

theorem holds_of_perm {others : List Range} (perm : ranges.Perm others) :
    Holds ranges address ↔ Holds others address := by
  simp only [Holds, perm.mem_iff]

/-- The addresses of a range are consecutive. -/
theorem map_value_toList (range : Range) :
    range.toList.map V4.value = List.range' range.low.value range.count := by
  have within : ∀ index ∈ List.range range.count,
      (range.get? index).map V4.value = some (range.low.value + index) := by
    intro index member
    have inside : range.low.value + index ≤ range.high.value := by
      have ordered := range.low_le_high
      have bound := List.mem_range.mp member
      unfold count at bound
      omega
    simp [get?, inside]
  rw [toList, List.map_filterMap, List.filterMap_congr within, List.range'_eq_map_range]
  exact congrFun List.filterMap_eq_map _

@[simp]
theorem length_toList (range : Range) : range.toList.length = range.count := by
  simpa using congrArg List.length range.map_value_toList

@[simp]
theorem mem_toList : address ∈ range.toList ↔ range.contains address := by
  have ordered := range.low_le_high
  have listed : address.value ∈ range.toList.map V4.value ↔ range.contains address := by
    rw [map_value_toList, List.mem_range'_1, contains_iff, count]
    omega
  rw [← listed, List.mem_map]
  constructor
  · intro member
    exact ⟨address, member, rfl⟩
  · rintro ⟨other, member, same⟩
    exact V4.eq_of_value_eq same ▸ member

theorem ascending_toList (range : Range) :
    range.toList.Pairwise fun a b => a.value < b.value := by
  rw [← List.pairwise_map, map_value_toList]
  exact List.pairwise_lt_range'

theorem mem_flatMap_toList : address ∈ ranges.flatMap toList ↔ Holds ranges address := by
  simp [Holds, List.mem_flatMap]

theorem length_flatMap_toList (ranges : List Range) :
    (ranges.flatMap toList).length = total ranges := by
  induction ranges with
  | nil => rfl
  | cons range rest ih => simp [total, ih]

/-! ## Separate ranges -/

/-- Whether there is an address between one range and a later one. -/
def Before (first second : Range) : Prop :=
  first.high.value + 1 < second.low.value

/-- Whether ranges ascend and no two of them overlap or are adjacent. -/
def Separate (ranges : List Range) : Prop :=
  ranges.Pairwise Before

theorem Separate.ascending (separate : Separate ranges) :
    (ranges.flatMap toList).Pairwise fun a b => a.value < b.value := by
  refine List.pairwise_flatMap.mpr ⟨fun range _ => range.ascending_toList, separate.imp ?_⟩
  intro first second before a inFirst b inSecond
  have above := (contains_iff.mp (mem_toList.mp inFirst)).2
  have below := (contains_iff.mp (mem_toList.mp inSecond)).1
  unfold Before at before
  omega

theorem Separate.nodup (separate : Separate ranges) : (ranges.flatMap toList).Nodup := by
  refine separate.ascending.imp ?_
  rintro a _ less rfl
  exact Nat.lt_irrefl _ less

/-- What separate ranges hold is counted by their total. -/
theorem Separate.total_eq_ncard (separate : Separate ranges) :
    total ranges = {address | Holds ranges address}.ncard := by
  classical
  have same : {address | Holds ranges address} = ↑(ranges.flatMap toList).toFinset := by
    ext address
    rw [Finset.mem_coe, List.mem_toFinset, mem_flatMap_toList]
    rfl
  rw [same, Set.ncard_coe_finset, List.toFinset_card_of_nodup separate.nodup,
    length_flatMap_toList]

theorem Separate.total_le (separate : Separate ranges) : total ranges ≤ 0x100000000 := by
  have within : (ranges.flatMap toList).map V4.value ⊆ List.range 0x100000000 := by
    intro value member
    obtain ⟨address, -, rfl⟩ := List.mem_map.mp member
    exact List.mem_range.mpr address.value_lt
  have nodup : ((ranges.flatMap toList).map V4.value).Nodup :=
    separate.nodup.map fun _ _ => V4.eq_of_value_eq
  have lengths := (nodup.subperm within).length_le
  rwa [List.length_map, length_flatMap_toList, List.length_range] at lengths

/-- The first one of separate ranges begins with the lowest address of all. -/
theorem Separate.low_le (separate : Separate (range :: rest))
    (holds : Holds (range :: rest) address) : range.low.value ≤ address.value := by
  rcases holds_cons.mp holds with here | ⟨later, member, inside⟩
  · exact (contains_iff.mp here).1
  · have before := List.rel_of_pairwise_cons separate member
    have ordered := range.low_le_high
    have above := (contains_iff.mp inside).1
    unfold Before at before
    omega

/-- The later ones of separate ranges hold what lies behind the first one. -/
theorem Separate.holds_rest_iff (separate : Separate (range :: rest)) :
    Holds rest address ↔ range.high.value < address.value ∧ Holds (range :: rest) address := by
  constructor
  · rintro ⟨later, member, inside⟩
    have before := List.rel_of_pairwise_cons separate member
    have above := (contains_iff.mp inside).1
    unfold Before at before
    exact ⟨by omega, later, List.mem_cons_of_mem _ member, inside⟩
  · rintro ⟨behind, holds⟩
    rcases holds_cons.mp holds with here | later
    · have below := (contains_iff.mp here).2
      omega
    · exact later

/-- The address behind the first one of separate ranges is not held. -/
theorem Separate.not_holds_of_eq_succ (separate : Separate (range :: rest))
    (next : address.value = range.high.value + 1) : ¬Holds (range :: rest) address := by
  intro holds
  rcases holds_cons.mp holds with here | ⟨later, member, inside⟩
  · have below := (contains_iff.mp here).2
    omega
  · have before := List.rel_of_pairwise_cons separate member
    have above := (contains_iff.mp inside).1
    unfold Before at before
    omega

/-- The bounds of a range. -/
def interval (range : Range) : V4 × V4 :=
  (range.low, range.high)

/-- The first one of separate ranges ends no earlier than another range that begins with it and
holds nothing else. -/
theorem Separate.high_le (separate : Separate (range :: rest)) (low : first.low = range.low)
    (within : ∀ address, first.contains address → Holds (range :: rest) address) :
    first.high.value ≤ range.high.value := by
  by_contra beyond
  have bound := first.high.value_lt
  have ordered := range.low_le_high
  let gap : V4 := ⟨range.high.value + 1, by omega⟩
  have inside : first.contains gap := by
    rw [contains_iff, low]
    simp only [gap]
    omega
  have next : gap.value = range.high.value + 1 := rfl
  exact separate.not_holds_of_eq_succ next (within gap inside)

/-- Separate ranges that hold the same addresses have the same bounds. -/
theorem Separate.map_interval_eq {others : List Range} (separate : Separate ranges)
    (apart : Separate others) (same : ∀ address, Holds ranges address ↔ Holds others address) :
    ranges.map interval = others.map interval := by
  induction ranges generalizing others with
  | nil =>
      cases others with
      | nil => rfl
      | cons range rest =>
          have lowest : Holds (range :: rest) range.low :=
            holds_cons.mpr (Or.inl (contains_iff.mpr ⟨Nat.le_refl _, range.low_le_high⟩))
          exact absurd ((same _).mpr lowest) not_holds_nil
  | cons first rest ih =>
      have lowest : Holds (first :: rest) first.low :=
        holds_cons.mpr (Or.inl (contains_iff.mpr ⟨Nat.le_refl _, first.low_le_high⟩))
      cases others with
      | nil => exact absurd ((same _).mp lowest) not_holds_nil
      | cons second others =>
          have lowest' : Holds (second :: others) second.low :=
            holds_cons.mpr (Or.inl (contains_iff.mpr ⟨Nat.le_refl _, second.low_le_high⟩))
          -- both begin with the lowest address that is held
          have low : first.low = second.low :=
            V4.eq_of_value_eq (Nat.le_antisymm (separate.low_le ((same _).mpr lowest'))
              (apart.low_le ((same _).mp lowest)))
          -- neither can go on where the other has its first gap
          have high : first.high = second.high :=
            V4.eq_of_value_eq (Nat.le_antisymm
              (apart.high_le low fun address inside =>
                (same address).mp (holds_cons.mpr (Or.inl inside)))
              (separate.high_le low.symm fun address inside =>
                (same address).mpr (holds_cons.mpr (Or.inl inside))))
          have later : ∀ address, Holds rest address ↔ Holds others address := by
            intro address
            rw [separate.holds_rest_iff, apart.holds_rest_iff, high, same address]
          rw [List.map_cons, List.map_cons, ih separate.of_cons apart.of_cons later]
          simp [interval, low, high]

/-! ## Joining neighbours -/

theorem low_of_join? {joined : Range} (joins : join? last next = some joined) :
    joined.low = last.low := by
  unfold join? at joins
  split at joins
  · split at joins <;> cases joins <;> rfl
  · contradiction

/-- Two ranges are joined if there is no gap between them, and then nothing is lost or
invented. -/
theorem contains_of_join? {joined : Range} (joins : join? last next = some joined)
    (ordered : last.low.value ≤ next.low.value) :
    joined.contains address ↔ last.contains address ∨ next.contains address := by
  have lastOrdered := last.low_le_high
  have nextOrdered := next.low_le_high
  unfold join? at joins
  split at joins
  · split at joins
    all_goals
      cases joins
      simp only [contains_iff]
      omega
  · contradiction

theorem before_of_join? (apart : join? last next = none) : Before last next := by
  unfold join? at apart
  split at apart
  · split at apart <;> contradiction
  · unfold Before
    omega

theorem join?_of_before (before : Before last next) : join? last next = none := by
  unfold Before at before
  rw [join?, if_neg (by omega)]

/-- Whether ranges are sorted by their lowest addresses. -/
def Ordered (ranges : List Range) : Prop :=
  ranges.Pairwise fun first second => first.low.value ≤ second.low.value

theorem Ordered.joined {joined : Range} (ordered : Ordered (last :: next :: rest))
    (joins : join? last next = some joined) : Ordered (joined :: rest) := by
  have behind := List.pairwise_cons.mp ordered
  refine List.pairwise_cons.mpr ⟨?_, behind.2.of_cons⟩
  intro later member
  rw [low_of_join? joins]
  exact behind.1 later (List.mem_cons_of_mem _ member)

theorem holds_coalesce (ordered : Ordered (last :: rest)) :
    Holds (coalesce last rest) address ↔ Holds (last :: rest) address := by
  induction rest generalizing last with
  | nil => rfl
  | cons next rest ih =>
      have first := List.rel_of_pairwise_cons ordered List.mem_cons_self
      unfold coalesce
      split
      · next joined joins =>
          rw [ih (ordered.joined joins), holds_cons, contains_of_join? joins first, holds_cons,
            holds_cons, or_assoc]
      · rw [holds_cons, ih ordered.of_cons]
        exact holds_cons.symm

theorem low_le_of_mem_coalesce (ordered : Ordered (last :: rest))
    (member : range ∈ coalesce last rest) : last.low.value ≤ range.low.value := by
  induction rest generalizing last with
  | nil =>
      rw [List.mem_singleton.mp member]
  | cons next rest ih =>
      have first := List.rel_of_pairwise_cons ordered List.mem_cons_self
      unfold coalesce at member
      split at member
      · next joined joins =>
          rw [← low_of_join? joins]
          exact ih (ordered.joined joins) member
      · rcases List.mem_cons.mp member with rfl | later
        · exact Nat.le_refl _
        · exact Nat.le_trans first (ih ordered.of_cons later)

theorem separate_coalesce (ordered : Ordered (last :: rest)) : Separate (coalesce last rest) := by
  induction rest generalizing last with
  | nil => exact List.pairwise_singleton _ _
  | cons next rest ih =>
      unfold coalesce
      split
      · next joined joins => exact ih (ordered.joined joins)
      · next apart =>
          have before := before_of_join? apart
          refine List.pairwise_cons.mpr ⟨?_, ih ordered.of_cons⟩
          intro later member
          have above := low_le_of_mem_coalesce ordered.of_cons member
          unfold Before at before ⊢
          omega

theorem coalesce_of_separate (separate : Separate (last :: rest)) :
    coalesce last rest = last :: rest := by
  induction rest generalizing last with
  | nil => rfl
  | cons next rest ih =>
      have before := List.rel_of_pairwise_cons separate List.mem_cons_self
      rw [coalesce, join?_of_before before]
      exact congrArg (last :: ·) (ih separate.of_cons)

/-! ## Merging -/

theorem le_iff : le first second ↔ first.low.value < second.low.value ∨
    first.low.value = second.low.value ∧ first.high.value ≤ second.high.value := by
  simp [le]

theorem le_total (first second : Range) : le first second || le second first := by
  rw [Bool.or_eq_true, le_iff, le_iff]
  omega

theorem le_trans (first second third : Range) (lower : le first second) (upper : le second third) :
    le first third := by
  rw [le_iff] at *
  omega

theorem ordered_mergeSort (ranges : List Range) : Ordered (ranges.mergeSort le) := by
  refine (List.pairwise_mergeSort le_trans le_total ranges).imp ?_
  intro first second isLe
  rw [le_iff] at isLe
  omega

theorem Separate.mergeSort_eq (separate : Separate ranges) : ranges.mergeSort le = ranges := by
  apply List.mergeSort_of_pairwise
  refine separate.imp ?_
  intro first second before
  have ordered := first.low_le_high
  unfold Before at before
  rw [le_iff]
  omega

theorem holds_merge (ranges : List Range) (address : V4) :
    Holds (merge ranges) address ↔ Holds ranges address := by
  have ordered := ordered_mergeSort ranges
  rw [← holds_of_perm (List.mergeSort_perm ranges le)]
  unfold merge
  split
  · next none => rw [none]
  · next sorted =>
      rw [sorted] at ordered ⊢
      exact holds_coalesce ordered

theorem separate_merge (ranges : List Range) : Separate (merge ranges) := by
  have ordered := ordered_mergeSort ranges
  unfold merge
  split
  · exact List.Pairwise.nil
  · next sorted =>
      rw [sorted] at ordered
      exact separate_coalesce ordered

theorem Separate.merge_eq (separate : Separate ranges) : merge ranges = ranges := by
  unfold merge
  rw [separate.mergeSort_eq]
  cases ranges with
  | nil => rfl
  | cons first rest => exact coalesce_of_separate separate

/-- Whether a list of ranges is what merging should make of another list. -/
structure Merges (ranges merged : List Range) : Prop where
  /-- the ranges ascend, and no two of them overlap or are adjacent -/
  separate : merged.Pairwise fun first second => first.high.value + 1 < second.low.value
  holds_iff : ∀ address, Holds merged address ↔ Holds ranges address
  /-- one range after the other, every address is met once, in ascending order -/
  ascending : (merged.flatMap toList).Pairwise fun a b => a.value < b.value
  mem_iff : ∀ address, address ∈ merged.flatMap toList ↔ Holds ranges address
  /-- the total is the number of addresses, which there are no more of than words of 32 bits -/
  total_eq : total merged = {address | Holds ranges address}.ncard
  total_le : total merged ≤ 0x100000000
  merge_eq : merge merged = merged
  /-- the bounds do not depend on the order of the given ranges -/
  interval_eq : ∀ others : List Range, others.Perm ranges →
    (merge others).map interval = merged.map interval

/-- Merging loses and invents nothing. -/
theorem merge_merges (ranges : List Range) : Merges ranges (merge ranges) where
  separate := separate_merge ranges
  holds_iff := holds_merge ranges
  ascending := (separate_merge ranges).ascending
  mem_iff address := by rw [mem_flatMap_toList, holds_merge]
  total_eq := by
    rw [(separate_merge ranges).total_eq_ncard]
    simp only [holds_merge]
  total_le := (separate_merge ranges).total_le
  merge_eq := (separate_merge ranges).merge_eq
  interval_eq others perm := by
    apply (separate_merge others).map_interval_eq (separate_merge ranges)
    intro address
    rw [holds_merge, holds_merge, holds_of_perm perm]

end Range

end FieldSurvey.Address
