import FieldSurvey.Address.V4
import FieldSurvey.ParseError
import FieldSurvey.Text.Basic

/-!
# IPv4 address ranges

A range is the interval between two addresses, both included.  It may name the
interface it was derived from.  Ranges are written as a single address, as a
block of addresses that share their first bits (`192.168.1.0/24`), or as an
interval (`10.0.0.1-10.0.0.20`); in a list they are separated by `;` or `,`.
-/

namespace FieldSurvey.Address

/-- An interval of addresses. -/
structure Range where
  low : V4
  high : V4
  nic : Option String := none
  low_le_high : low.value ≤ high.value := by omega
  deriving DecidableEq

namespace Range

/-- The range between two addresses given in any order. -/
def between (a b : V4) : Range :=
  if h : a.value ≤ b.value then { low := a, high := b, low_le_high := h }
  else { low := b, high := a, low_le_high := by omega }

/-- The range of one address. -/
def single (address : V4) : Range :=
  { low := address, high := address, low_le_high := Nat.le_refl _ }

/-- The same addresses on behalf of an interface. -/
def withNic (range : Range) (nic : String) : Range :=
  { range with nic := some nic }

/-- The number of addresses in a block whose first `bits` bits are fixed. -/
def blockSize (bits : Nat) : Nat :=
  Nat.pow 2 (32 - bits)

/-- The first address of the block around an address. -/
def blockStart (address : V4) (bits : Nat) : Nat :=
  address.value / blockSize bits * blockSize bits

/-- The last address of the block around an address. -/
def blockEnd (address : V4) (bits : Nat) : Nat :=
  blockStart address bits + (blockSize bits - 1)

theorem blockSize_pos (bits : Nat) : 0 < blockSize bits :=
  Nat.pow_pos (by decide)

theorem blockSize_dvd (bits : Nat) : blockSize bits ∣ 0x100000000 := by
  have hspace : Nat.pow 2 32 = 0x100000000 := by decide
  rw [← hspace]
  exact Nat.pow_dvd_pow 2 (Nat.sub_le 32 bits)

/-- Every block ends inside the address space. -/
theorem blockEnd_lt (address : V4) (bits : Nat) : blockEnd address bits < 0x100000000 := by
  obtain ⟨count, hcount⟩ := blockSize_dvd bits
  have hpos := blockSize_pos bits
  have hlt : address.value / blockSize bits < count := by
    apply Nat.div_lt_of_lt_mul
    rw [← hcount]
    exact address.value_lt
  have hle : (address.value / blockSize bits + 1) * blockSize bits ≤ count * blockSize bits :=
    Nat.mul_le_mul_right _ hlt
  have hprod : count * blockSize bits = 0x100000000 := by rw [hcount, Nat.mul_comm]
  unfold blockEnd blockStart
  rw [Nat.add_mul, hprod, Nat.one_mul] at hle
  omega

/-- The addresses that share their first `bits` bits with an address. -/
def block (address : V4) (bits : Nat) : Range :=
  have hend := blockEnd_lt address bits
  { low := ⟨blockStart address bits, by unfold blockEnd at hend; omega⟩
    high := ⟨blockEnd address bits, hend⟩
    low_le_high := by simp [blockEnd] }

/-- Why a prefix length above 32 is refused. -/
def prefixReason : String :=
  "prefix out of range"

/-- Why a text that is no address is refused. -/
def addressReason : String :=
  "invalid IPv4 address syntax"

/-- The block around an address, unless the prefix length is above 32. -/
def cidr (address : V4) (bits : Nat) : Except ParseError Range :=
  if bits ≤ 32 then .ok (block address bits)
  else .error (.invalidAddressRange s!"{address.toText}/{bits}" prefixReason)

/-- The number of addresses. -/
def count (range : Range) : Nat :=
  range.high.value - range.low.value + 1

/-- Whether an address lies in the range. -/
def contains (range : Range) (address : V4) : Bool :=
  range.low.value ≤ address.value && address.value ≤ range.high.value

/-- The address at a position, counted from the lowest. -/
def get? (range : Range) (index : Nat) : Option V4 :=
  if h : range.low.value + index ≤ range.high.value then
    some ⟨range.low.value + index, Nat.lt_of_le_of_lt h range.high.value_lt⟩
  else none

/-- The addresses in ascending order. -/
def toList (range : Range) : List V4 :=
  (List.range range.count).filterMap range.get?

/-- The first `n` addresses. -/
def take (range : Range) (n : Nat) : List V4 :=
  (List.range (min n range.count)).filterMap range.get?

/-- The number of addresses over a list of ranges, those that occur in several
ranges counted for each. -/
def total : List Range → Nat
  | [] => 0
  | range :: rest => range.count + total rest

/-- The address at a position in a list of ranges, one range after the other. -/
def nth? : List Range → Nat → Option V4
  | [], _ => none
  | range :: rest, index =>
    if index < range.count then range.get? index else nth? rest (index - range.count)

/-- The prefix length of a range that is one whole block. -/
def prefixLength? (range : Range) : Option Nat :=
  (List.range 33).find? fun bits =>
    range.count == blockSize bits && range.low.value % blockSize bits == 0

/-- The written form, as characters. -/
def toChars (range : Range) : List Char :=
  if range.low = range.high then range.low.toChars
  else
    match range.prefixLength? with
    | some bits => range.low.toChars ++ '/' :: Number.digits bits
    | none => range.low.toChars ++ '-' :: range.high.toChars

/-- The written form. -/
def toText (range : Range) : String :=
  String.ofList range.toChars

/-- The written form of a list. -/
def format (ranges : List Range) : String :=
  String.ofList ([';'].intercalate (ranges.map toChars))

/-- Reads one address, on behalf of the trimmed piece it stands in. -/
def readAddress (piece cs : List Char) : Except ParseError V4 :=
  match V4.ofChars? (Text.trim cs) with
  | some address => .ok address
  | none => .error (.invalidAddressRange (String.ofList piece) addressReason)

/-- Reads a trimmed piece.  A slash decides first, then a dash; the prefix
length is looked at before the address in front of it. -/
def readPiece (piece : List Char) : Except ParseError Range :=
  match Text.splitOnce '/' piece with
  | some (address, bits) =>
    match Number.read Number.maxByte (Text.trim bits) with
    | .error fault => .error (.invalidAddressRange (String.ofList piece) fault.message)
    | .ok bits => do cidr (← readAddress piece address) bits
  | none =>
    match Text.splitOnce '-' piece with
    | some (a, b) => do return between (← readAddress piece a) (← readAddress piece b)
    | none => do return single (← readAddress piece piece)

/-- The field named when there is no range at all. -/
def fieldName : String :=
  "address range"

/-- Reads one range. -/
def ofText (text : String) : Except ParseError Range :=
  let piece := Text.trim text.toList
  if piece.isEmpty then .error (.empty fieldName) else readPiece piece

/-- The trimmed pieces of a list of ranges that are not blank. -/
def piecesOf (cs : List Char) : List (List Char) :=
  ((cs.splitOnP fun c => c == ';' || c == ',').map Text.trim).filter fun piece => !piece.isEmpty

/-- Reads a list of ranges; the first piece that is refused decides the
error. -/
def parse (text : String) : Except ParseError (List Range) :=
  (piecesOf text.toList).mapM readPiece

/-- Order by lowest, then highest address. -/
def le (a b : Range) : Bool :=
  a.low.value < b.low.value || (a.low.value == b.low.value && a.high.value ≤ b.high.value)

/-- Joins a range to the one before it if they overlap or are adjacent.  The
joined range keeps the interface of the earlier one. -/
def join? (last next : Range) : Option Range :=
  if next.low.value ≤ last.high.value + 1 then
    if h : last.high.value ≤ next.high.value then
      some { last with high := next.high, low_le_high := Nat.le_trans last.low_le_high h }
    else some last
  else none

/-- Joins neighbours in a sorted list, given the range that was built last. -/
def coalesce (last : Range) : List Range → List Range
  | [] => [last]
  | next :: rest =>
    match join? last next with
    | some joined => coalesce joined rest
    | none => last :: coalesce next rest

/-- Sorts ranges and joins those that overlap or are adjacent. -/
def merge (ranges : List Range) : List Range :=
  match ranges.mergeSort le with
  | [] => []
  | first :: rest => coalesce first rest

end Range

end FieldSurvey.Address
