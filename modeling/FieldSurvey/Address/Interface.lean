import FieldSurvey.Address.Range

/-!
# Host ranges of an interface

A network interface has an address, a prefix length and perhaps a gateway.  The
hosts on its subnet are all addresses of the subnet, without the first and the
last one if the prefix length is at most 30.
-/

namespace FieldSurvey.Address

/-- An IPv4 interface of this machine. -/
structure Interface where
  name : String
  address : V4
  prefixLength : Nat
  gateway : Option V4 := none
  deriving DecidableEq

namespace Interface

/-- The prefix length that a narrowed subnet has at least. -/
def narrowPrefix : Nat :=
  24

/-- The prefix length of the subnet that is looked at: at most 32, and at least
that of a narrowed subnet unless `full` is set. -/
def scannedPrefix (interface : Interface) (full : Bool) : Nat :=
  if full then min interface.prefixLength 32
  else min (max interface.prefixLength narrowPrefix) 32

/-- The subnet around the interface address. -/
def subnet (interface : Interface) (full : Bool) : Range :=
  Range.block interface.address (interface.scannedPrefix full)

theorem blockStart_add_three_le {address : V4} {bits : Nat} (h : bits ≤ 30) :
    Range.blockStart address bits + 3 ≤ Range.blockEnd address bits := by
  have hsize : Nat.pow 2 2 ≤ Range.blockSize bits :=
    Nat.pow_le_pow_right (by decide) (Nat.le_sub_of_add_le (by omega))
  have hfour : Nat.pow 2 2 = 4 := by decide
  unfold Range.blockEnd
  omega

/-- The addresses of the hosts on the subnet, named after the interface. -/
def hostRange (interface : Interface) (full : Bool) : Range :=
  let bits := interface.scannedPrefix full
  if h : bits ≤ 30 then
    have hspan := @blockStart_add_three_le interface.address _ h
    have hend := Range.blockEnd_lt interface.address bits
    { low := ⟨Range.blockStart interface.address bits + 1, by omega⟩
      high := ⟨Range.blockEnd interface.address bits - 1, by omega⟩
      nic := some interface.name
      low_le_high := by change _ + 1 ≤ _ - 1; omega }
  else (interface.subnet full).withNic interface.name

end Interface

end FieldSurvey.Address
