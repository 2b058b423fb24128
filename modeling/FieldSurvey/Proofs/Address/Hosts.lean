import FieldSurvey.Address.Interface
import FieldSurvey.Proofs.Address.Grammar

/-!
# The hosts of an interface

The host range of an interface holds the addresses that share the first bits of the interface, but
for prefixes of at most 30 bits neither the address whose other bits are all zero, which is that of
the network, nor the one whose other bits are all one, which is for broadcasts.  Its bounds can be
formed in words of 32 bits, by a mask and one step inwards at each end, and no step overflows.
-/

namespace FieldSurvey.Address

/-- The lowest bits of a number are those of a small number just if it is the remainder. -/
theorem mod_two_pow_eq_iff {n m k : Nat} (small : m < 2 ^ k) :
    n % 2 ^ k = m ↔ ∀ i < k, n.testBit i = m.testBit i := by
  constructor
  · rintro rfl i inside
    rw [Nat.testBit_mod_two_pow, decide_eq_true inside, Bool.true_and]
  · intro same
    apply Nat.eq_of_testBit_eq
    intro i
    rw [Nat.testBit_mod_two_pow]
    by_cases inside : i < k
    · rw [decide_eq_true inside, Bool.true_and, same i inside]
    · have beyond : m < 2 ^ i :=
        Nat.lt_of_lt_of_le small (Nat.pow_le_pow_right (by decide) (Nat.le_of_not_lt inside))
      rw [decide_eq_false inside, Bool.false_and, Nat.testBit_lt_two_pow beyond]

namespace V4

variable {address : V4} {bits : Nat}

/-- Whether all bits of an address behind its first ones have one value. -/
def HasHostBits (bits : Nat) (bit : Bool) (address : V4) : Prop :=
  ∀ i, bits ≤ i → i < 32 → address.value.testBit (31 - i) = bit

/-- Bits counted from the highest and from the lowest one. -/
theorem hasHostBits_iff {bit : Bool} (within : bits ≤ 32) :
    address.HasHostBits bits bit ↔ ∀ i < 32 - bits, address.value.testBit i = bit := by
  constructor
  · intro hostBits i inside
    have same := hostBits (31 - i) (by omega) (by omega)
    rwa [Nat.sub_sub_self (by omega)] at same
  · intro lowest i _ _
    exact lowest (31 - i) (by omega)

theorem hasHostBits_false_iff (within : bits ≤ 32) :
    address.HasHostBits bits false ↔ address.value % Range.blockSize bits = 0 := by
  have size : Range.blockSize bits = 2 ^ (32 - bits) := rfl
  rw [hasHostBits_iff within, size, mod_two_pow_eq_iff (Nat.two_pow_pos _)]
  simp only [Nat.zero_testBit]

theorem hasHostBits_true_iff (within : bits ≤ 32) : address.HasHostBits bits true ↔
    address.value % Range.blockSize bits = Range.blockSize bits - 1 := by
  have size : Range.blockSize bits = 2 ^ (32 - bits) := rfl
  rw [hasHostBits_iff within, size,
    mod_two_pow_eq_iff (Nat.sub_one_lt (Nat.two_pow_pos _).ne')]
  refine forall₂_congr fun i inside => ?_
  rw [Nat.testBit_two_pow_sub_one, decide_eq_true inside]

end V4

namespace Interface

variable {interface : Interface} {address : V4} {full : Bool}

/-- Whether an address is that of a host on the subnet of an interface, given the length of its
prefix. -/
structure IsHost (interface : Interface) (bits : Nat) (address : V4) : Prop where
  shares : address.SharesPrefix bits interface.address
  /-- neither the address of the network nor the one for broadcasts -/
  inner : bits ≤ 30 → ¬address.HasHostBits bits false ∧ ¬address.HasHostBits bits true

theorem scannedPrefix_le (interface : Interface) (full : Bool) :
    interface.scannedPrefix full ≤ 32 := by
  unfold scannedPrefix
  split <;> exact Nat.min_le_right _ _

theorem contains_subnet : (interface.subnet full).contains address ↔
    address.SharesPrefix (interface.scannedPrefix full) interface.address :=
  (Range.contains_block_iff_div interface.address).trans
    (Range.shares_iff_div (interface.scannedPrefix_le full) address interface.address).symm

/-- The place of an address within its block is what its host bits stand for. -/
theorem mod_of_contains_block {bits : Nat} {around : V4}
    (inBlock : (Range.block around bits).contains address) :
    Range.blockStart around bits + address.value % Range.blockSize bits = address.value := by
  have split := Nat.div_add_mod' address.value (Range.blockSize bits)
  rwa [(Range.contains_block_iff_div around).mp inBlock] at split

theorem low_hostRange_of_le (short : interface.scannedPrefix full ≤ 30) :
    (interface.hostRange full).low.value =
      Range.blockStart interface.address (interface.scannedPrefix full) + 1 := by
  unfold hostRange
  rw [dif_pos short]

theorem high_hostRange_of_le (short : interface.scannedPrefix full ≤ 30) :
    (interface.hostRange full).high.value =
      Range.blockEnd interface.address (interface.scannedPrefix full) - 1 := by
  unfold hostRange
  rw [dif_pos short]

theorem hostRange_of_lt (long : 30 < interface.scannedPrefix full) :
    interface.hostRange full = (interface.subnet full).withNic interface.name := by
  unfold hostRange
  rw [dif_neg (Nat.not_le_of_lt long)]

/-- The range of a short prefix is the subnet without its first and its last address. -/
theorem contains_hostRange_of_le (short : interface.scannedPrefix full ≤ 30) :
    (interface.hostRange full).contains address ↔
      (interface.subnet full).contains address ∧
        address.value % Range.blockSize (interface.scannedPrefix full) ≠ 0 ∧
        address.value % Range.blockSize (interface.scannedPrefix full) ≠
          Range.blockSize (interface.scannedPrefix full) - 1 := by
  have place : (interface.subnet full).contains address → _ := mod_of_contains_block
  have inside : (interface.hostRange full).contains address ↔
      Range.blockStart interface.address (interface.scannedPrefix full) + 1 ≤ address.value ∧
        address.value ≤ Range.blockEnd interface.address (interface.scannedPrefix full) - 1 := by
    rw [Range.contains_iff, low_hostRange_of_le short, high_hostRange_of_le short]
  rw [inside]
  rw [Range.contains_iff] at place ⊢
  change Range.blockStart _ _ ≤ _ ∧ _ ≤ Range.blockEnd _ _ → _ at place
  change _ ↔ (Range.blockStart _ _ ≤ _ ∧ _ ≤ Range.blockEnd _ _) ∧ _
  unfold Range.blockEnd at *
  omega

/-- The host range of an interface holds just its hosts. -/
theorem contains_hostRange : (interface.hostRange full).contains address ↔
    interface.IsHost (interface.scannedPrefix full) address := by
  have within := interface.scannedPrefix_le full
  by_cases short : interface.scannedPrefix full ≤ 30
  · rw [contains_hostRange_of_le short, contains_subnet, Ne, Ne,
      ← V4.hasHostBits_false_iff within, ← V4.hasHostBits_true_iff within]
    constructor
    · rintro ⟨shares, inner⟩
      exact ⟨shares, fun _ => inner⟩
    · rintro ⟨shares, inner⟩
      exact ⟨shares, inner short⟩
  · have whole : (interface.hostRange full).contains address ↔
        (interface.subnet full).contains address := by
      rw [hostRange_of_lt (Nat.lt_of_not_le short)]
      rfl
    rw [whole, contains_subnet]
    constructor
    · intro shares
      exact ⟨shares, fun isShort => absurd isShort short⟩
    · exact IsHost.shares

end Interface

/-! ## Bounds in words of 32 bits -/

namespace Word

/-- The sum of two words, if a word holds it. -/
def add? (first second : UInt32) : Option UInt32 :=
  if first.toNat + second.toNat < UInt32.size then some (first + second) else none

/-- The difference of two words, if it is not negative. -/
def sub? (first second : UInt32) : Option UInt32 :=
  if second ≤ first then some (first - second) else none

/-- A word with its bits moved up by fewer places than it has bits. -/
def shiftLeft? (word places : UInt32) : Option UInt32 :=
  if places < 32 then some (word <<< places) else none

/-- The word whose first bits are set. -/
def mask? (bits : UInt32) : Option UInt32 :=
  if bits = 0 then some 0 else do shiftLeft? 0xffffffff (← sub? 32 bits)

/-- The first and the last host of a subnet, formed from masks.  Every step that a word may be too
small for is checked. -/
def hostBounds? (address bits : UInt32) : Option (UInt32 × UInt32) := do
  let mask ← mask? bits
  let network := address &&& mask
  let broadcast := network ||| ~~~mask
  if bits ≤ 30 then return (← add? network 1, ← sub? broadcast 1)
  else return (network, broadcast)

theorem add?_eq {first second : UInt32} (holds : first.toNat + second.toNat < UInt32.size) :
    add? first second = some (first + second) :=
  if_pos holds

theorem sub?_eq {first second : UInt32} (le : second ≤ first) :
    sub? first second = some (first - second) :=
  if_pos le

/-- The mask is formed for every prefix length up to 32, and has just its first bits set. -/
theorem exists_mask? {bits : UInt32} (within : bits.toNat ≤ 32) : ∃ mask, mask? bits = some mask ∧
    ∀ i, mask.toNat.testBit i = (decide (32 - bits.toNat ≤ i) && decide (i < 32)) := by
  by_cases none : bits = 0
  · subst none
    refine ⟨0, rfl, fun i => ?_⟩
    have zero : (0 : UInt32).toNat = 0 := rfl
    rw [zero, Nat.zero_testBit]
    simp
  · have thirtyTwo : (32 : UInt32).toNat = 32 := rfl
    have le : bits ≤ 32 := UInt32.le_iff_toNat_le.mpr within
    have places : (32 - bits).toNat = 32 - bits.toNat := UInt32.toNat_sub_of_le _ _ le
    have positive : bits.toNat ≠ 0 := fun zero => none (UInt32.toNat_inj.mp zero)
    have fewer : 32 - bits < 32 := by
      rw [UInt32.lt_iff_toNat_lt, places]
      omega
    refine ⟨0xffffffff <<< (32 - bits), ?_, fun i => ?_⟩
    · rw [mask?, if_neg none, sub?_eq le]
      exact if_pos fewer
    · have ones : (0xffffffff : UInt32).toNat = 2 ^ 32 - 1 := rfl
      have small : (32 - bits.toNat) % 32 = 32 - bits.toNat := Nat.mod_eq_of_lt (by omega)
      rw [UInt32.toNat_shiftLeft, places, small, ones, Nat.testBit_mod_two_pow,
        Nat.testBit_shiftLeft, Nat.testBit_two_pow_sub_one]
      by_cases inside : i < 32
      · have below : i - (32 - bits.toNat) < 32 := by omega
        simp [inside, below]
      · simp [inside]

end Word

/-- An address as a word. -/
def V4.word (address : V4) : UInt32 :=
  UInt32.ofNat address.value

theorem V4.toNat_word (address : V4) : address.word.toNat = address.value :=
  UInt32.toNat_ofNat_of_lt address.value_lt

namespace Range

variable {address : V4} {bits : Nat}

theorem testBit_blockStart (i : Nat) : (blockStart address bits).testBit i =
    (decide (32 - bits ≤ i) && address.value.testBit i) := by
  have shifted : blockStart address bits =
      (address.value >>> (32 - bits)) <<< (32 - bits) := by
    rw [Nat.shiftRight_eq_div_pow, Nat.shiftLeft_eq]
    rfl
  rw [shifted, Nat.testBit_shiftLeft, Nat.testBit_shiftRight]
  by_cases high : 32 - bits ≤ i
  · rw [Nat.add_sub_cancel' high]
  · simp [high]

theorem testBit_blockEnd (i : Nat) : (blockEnd address bits).testBit i =
    ((decide (32 - bits ≤ i) && address.value.testBit i) || decide (i < 32 - bits)) := by
  have joined : blockEnd address bits =
      (address.value >>> (32 - bits)) <<< (32 - bits) ||| (2 ^ (32 - bits) - 1) := by
    rw [← Nat.shiftLeft_add_eq_or_of_lt (Nat.sub_one_lt (Nat.two_pow_pos _).ne'),
      Nat.shiftRight_eq_div_pow, Nat.shiftLeft_eq]
    rfl
  rw [joined, Nat.testBit_or, Nat.testBit_two_pow_sub_one, Nat.testBit_shiftLeft,
    Nat.testBit_shiftRight]
  by_cases high : 32 - bits ≤ i
  · rw [Nat.add_sub_cancel' high]
  · simp [high]

/-- What a mask leaves of an address is the start of its block. -/
theorem toNat_and_mask {mask : UInt32}
    (set : ∀ i, mask.toNat.testBit i = (decide (32 - bits ≤ i) && decide (i < 32))) :
    (address.word &&& mask).toNat = blockStart address bits := by
  apply Nat.eq_of_testBit_eq
  intro i
  rw [UInt32.toNat_and, Nat.testBit_and, set, V4.toNat_word, testBit_blockStart]
  by_cases inside : i < 32
  · simp [inside, Bool.and_comm]
  · have beyond : address.value < 2 ^ i := address.value_lt.trans_le
      (Nat.pow_le_pow_right (by decide) (Nat.le_of_not_lt inside) : 2 ^ 32 ≤ 2 ^ i)
    simp [Nat.testBit_lt_two_pow beyond]

/-- The start of a block with all bits set that are not in the mask is its end. -/
theorem toNat_or_not_mask {mask : UInt32}
    (set : ∀ i, mask.toNat.testBit i = (decide (32 - bits ≤ i) && decide (i < 32))) :
    ((address.word &&& mask) ||| ~~~mask).toNat = blockEnd address bits := by
  apply Nat.eq_of_testBit_eq
  intro i
  have size : UInt32.size = 2 ^ 32 := rfl
  rw [UInt32.toNat_or, Nat.testBit_or, toNat_and_mask set, testBit_blockStart, testBit_blockEnd,
    UInt32.toNat_not, size, Nat.sub_sub, Nat.add_comm 1,
    Nat.testBit_two_pow_sub_succ mask.toNat_lt, set]
  by_cases inside : i < 32
  · by_cases high : 32 - bits ≤ i
    · simp [high, inside]
    · simp [high, inside]
      omega
  · have above : 32 - bits ≤ i := by omega
    simp [inside, above]

end Range

namespace Interface

variable {interface : Interface} {address : V4} {full : Bool}

/-- The bounds of a host range are formed in words without a loss. -/
theorem hostBounds?_eq (interface : Interface) (full : Bool) :
    Word.hostBounds? interface.address.word (UInt32.ofNat (interface.scannedPrefix full)) =
      some ((interface.hostRange full).low.word, (interface.hostRange full).high.word) := by
  have within := interface.scannedPrefix_le full
  have size : UInt32.size = 2 ^ 32 := rfl
  have one : (1 : UInt32).toNat = 1 := rfl
  have bits : (UInt32.ofNat (interface.scannedPrefix full)).toNat = interface.scannedPrefix full :=
    UInt32.toNat_ofNat_of_lt (by omega)
  obtain ⟨mask, formed, set⟩ := Word.exists_mask? (bits.trans_le within)
  rw [bits] at set
  have network : (interface.address.word &&& mask).toNat = _ := Range.toNat_and_mask set
  have broadcast : ((interface.address.word &&& mask) ||| ~~~mask).toNat = _ :=
    Range.toNat_or_not_mask set
  have inside := Range.blockEnd_lt interface.address (interface.scannedPrefix full)
  by_cases short : interface.scannedPrefix full ≤ 30
  · have span : Range.blockStart interface.address _ + 3 ≤ _ := blockStart_add_three_le short
    have fits : (interface.address.word &&& mask).toNat + (1 : UInt32).toNat < UInt32.size := by
      omega
    have positive : (1 : UInt32) ≤ (interface.address.word &&& mask) ||| ~~~mask := by
      rw [UInt32.le_iff_toNat_le]
      omega
    have low : (interface.address.word &&& mask) + 1 = (interface.hostRange full).low.word := by
      rw [← UInt32.toNat_inj, V4.toNat_word, low_hostRange_of_le short, UInt32.toNat_add, network,
        one, Nat.mod_eq_of_lt (by omega)]
    have high : ((interface.address.word &&& mask) ||| ~~~mask) - 1 =
        (interface.hostRange full).high.word := by
      rw [← UInt32.toNat_inj, V4.toNat_word, high_hostRange_of_le short,
        UInt32.toNat_sub_of_le _ _ positive, broadcast, one]
    have isShort : UInt32.ofNat (interface.scannedPrefix full) ≤ 30 := by
      rw [UInt32.le_iff_toNat_le, bits]
      exact short
    simp only [Word.hostBounds?, formed, Option.bind_eq_bind, Option.bind_some, if_pos isShort,
      Word.add?_eq fits, Word.sub?_eq positive, low, high, Option.pure_def]
  · have long := Nat.lt_of_not_le short
    have low : interface.address.word &&& mask = (interface.hostRange full).low.word := by
      rw [← UInt32.toNat_inj, V4.toNat_word, network, hostRange_of_lt long]
      rfl
    have high : (interface.address.word &&& mask) ||| ~~~mask =
        (interface.hostRange full).high.word := by
      rw [← UInt32.toNat_inj, V4.toNat_word, broadcast, hostRange_of_lt long]
      rfl
    have isLong : ¬UInt32.ofNat (interface.scannedPrefix full) ≤ 30 := by
      rw [UInt32.le_iff_toNat_le, bits]
      exact short
    simp only [Word.hostBounds?, formed, Option.bind_eq_bind, Option.bind_some, if_neg isLong,
      ← low, ← high, Option.pure_def]

/-- A host range has all addresses of its subnet but for the two that belong to no host. -/
theorem count_hostRange (interface : Interface) (full : Bool) : (interface.hostRange full).count =
    if interface.scannedPrefix full ≤ 30 then
      Range.blockSize (interface.scannedPrefix full) - 2
    else Range.blockSize (interface.scannedPrefix full) := by
  have positive := Range.blockSize_pos (interface.scannedPrefix full)
  split
  · rename_i short
    have span : Range.blockStart interface.address _ + 3 ≤ _ := blockStart_add_three_le short
    rw [Range.count, low_hostRange_of_le short, high_hostRange_of_le short]
    unfold Range.blockEnd at *
    omega
  · rename_i long
    rw [hostRange_of_lt (Nat.lt_of_not_le long)]
    change Range.blockEnd _ _ - Range.blockStart _ _ + 1 = _
    unfold Range.blockEnd
    omega

/-- A narrowed subnet is that of a longer prefix. -/
theorem scannedPrefix_true_le_false (interface : Interface) :
    interface.scannedPrefix true ≤ interface.scannedPrefix false := by
  simp only [scannedPrefix, if_true, Bool.false_eq_true, if_false]
  omega

/-- The host range of an interface, over the whole subnet or a narrowed one, is formed as it is
meant to be. -/
structure HasHostRange (interface : Interface) (full : Bool) : Prop where
  /-- the bounds are formed in words of 32 bits, and so is their difference -/
  formed : ∃ low high difference : UInt32,
    Word.hostBounds? interface.address.word (UInt32.ofNat (interface.scannedPrefix full)) =
      some (low, high) ∧
    Word.sub? high low = some difference ∧ low ≤ high ∧
    low.toNat = (interface.hostRange full).low.value ∧
    high.toNat = (interface.hostRange full).high.value ∧
    difference.toNat + 1 = (interface.hostRange full).count
  inside : ∀ address, (interface.hostRange full).contains address →
    address.SharesPrefix (min interface.prefixLength 32) interface.address
  hosts : ∀ address, (interface.hostRange full).contains address ↔
    interface.IsHost (interface.scannedPrefix full) address

theorem hasHostRange (interface : Interface) (full : Bool) : interface.HasHostRange full := by
  have ordered : (interface.hostRange full).low.word ≤ (interface.hostRange full).high.word := by
    rw [UInt32.le_iff_toNat_le, V4.toNat_word, V4.toNat_word]
    exact (interface.hostRange full).low_le_high
  constructor
  case formed =>
    refine ⟨_, _, _, hostBounds?_eq interface full, Word.sub?_eq ordered, ordered,
      V4.toNat_word _, V4.toNat_word _, ?_⟩
    rw [UInt32.toNat_sub_of_le _ _ ordered, V4.toNat_word, V4.toNat_word]
    rfl
  case inside =>
    intro address contained i below
    refine (contains_hostRange.mp contained).shares i (below.trans_le ?_)
    cases full with
    | true => rfl
    | false => exact interface.scannedPrefix_true_le_false
  case hosts => exact fun address => contains_hostRange

/-- The hosts on a narrowed subnet are hosts on the whole one. -/
theorem isHost_of_narrowed (isHost : interface.IsHost (interface.scannedPrefix false) address) :
    interface.IsHost (interface.scannedPrefix true) address := by
  have le := interface.scannedPrefix_true_le_false
  constructor
  case shares => exact fun i below => isHost.shares i (below.trans_le le)
  case inner =>
    intro short
    have narrowed : interface.scannedPrefix false ≤ 30 := by
      simp only [scannedPrefix, narrowPrefix, if_true, Bool.false_eq_true, if_false] at short ⊢
      omega
    -- all bits behind the shorter prefix are in particular all bits behind the longer one
    obtain ⟨network, broadcast⟩ := isHost.inner narrowed
    exact ⟨fun zero => network fun i above => zero i (le.trans above),
      fun one => broadcast fun i above => one i (le.trans above)⟩

theorem count_narrowed_le (interface : Interface) : (interface.hostRange false).count ≤ 254 := by
  have least : 24 ≤ interface.scannedPrefix false := by
    simp only [scannedPrefix, narrowPrefix, Bool.false_eq_true, if_false]
    omega
  rw [count_hostRange]
  split
  · have small : Range.blockSize (interface.scannedPrefix false) ≤ 2 ^ 8 :=
      Nat.pow_le_pow_right (by decide) (by omega)
    omega
  · have small : Range.blockSize (interface.scannedPrefix false) ≤ 2 ^ 1 :=
      Nat.pow_le_pow_right (by decide) (by omega)
    omega

/-- The host ranges of an interface are formed without a loss, whatever its address and the length
of its prefix; they hold the hosts on its subnet and nothing else.  The range of the narrowed
subnet is a part of that of the whole one, of at most 254 addresses. -/
theorem host_ranges_well_formed (interface : Interface) :
    interface.HasHostRange true ∧ interface.HasHostRange false ∧
    (∀ address, (interface.hostRange false).contains address →
      (interface.hostRange true).contains address) ∧
    (interface.hostRange false).count ≤ 254 := by
  refine ⟨hasHostRange interface true, hasHostRange interface false, fun address narrowed => ?_,
    count_narrowed_le interface⟩
  rw [contains_hostRange] at narrowed ⊢
  exact isHost_of_narrowed narrowed

end Interface

end FieldSurvey.Address
