import FieldSurvey.Address.V4

/-!
# IPv6 addresses

An IPv6 address is eight groups of sixteen bits, written in hexadecimal with
colons between them.  One run of zero groups may be left out and leaves two
colons; the last two groups may be written as an IPv4 address.
-/

namespace FieldSurvey.Address

/-- A 128 bit address. -/
structure V6 where
  value : Nat
  value_lt : value < 0x100000000000000000000000000000000
  deriving DecidableEq

namespace V6

/-- The lowest 128 bits of a number as an address. -/
def ofNat (n : Nat) : V6 :=
  ⟨n % 0x100000000000000000000000000000000, Nat.mod_lt _ (by decide)⟩

/-- The address of a list of groups, first group first. -/
def ofGroups (groups : List Nat) : V6 :=
  ofNat (groups.foldl (fun value group => value * 0x10000 + group) 0)

/-- The eight groups, first group first. -/
def groups (address : V6) : List Nat :=
  (List.range 8).map fun index => address.value / Nat.pow 0x10000 (7 - index) % 0x10000

/-- Reads a group of one to four hexadecimal digits. -/
def group? (cs : List Char) : Option Nat :=
  match cs with
  | '+' :: _ => none
  | _ => if cs.length ≤ 4 then (Number.readIn 16 Number.maxShort cs).toOption else none

/-- Reads groups separated by colons.  The last piece may be an IPv4 address
if `mixed` is set. -/
def groupsOf? (mixed : Bool) : List (List Char) → Option (List Nat)
  | [] => some []
  | [last] =>
    match group? last with
    | some group => some [group]
    | none =>
      if mixed then
        (V4.ofChars? last).map fun address => [address.value / 0x10000, address.value % 0x10000]
      else none
  | piece :: rest => do
    let group ← group? piece
    let groups ← groupsOf? mixed rest
    some (group :: groups)

/-- The pieces of a text between its colons; an empty text has none. -/
def piecesOf (cs : List Char) : List (List Char) :=
  if cs.isEmpty then [] else cs.splitOn ':'

/-- The parts in front of and behind the first two colons in a row. -/
def splitGap : List Char → Option (List Char × List Char)
  | ':' :: ':' :: rest => some ([], rest)
  | c :: rest => (splitGap rest).map fun (front, back) => (c :: front, back)
  | [] => none

/-- Reads an address that makes up the whole text. -/
def ofChars? (cs : List Char) : Option V6 := do
  match splitGap cs with
  | none =>
    let groups ← groupsOf? true (piecesOf cs)
    if groups.length = 8 then some (ofGroups groups) else none
  | some (front, back) =>
    let head ← groupsOf? false (piecesOf front)
    let tail ← groupsOf? true (piecesOf back)
    if head.length + tail.length ≤ 7 then
      some (ofGroups (head ++ List.replicate (8 - (head.length + tail.length)) 0 ++ tail))
    else none

/-- The length of the run of zero groups at the front of a list. -/
def zeroRun (groups : List Nat) : Nat :=
  (groups.takeWhile (· == 0)).length

/-- Start and length of the longest run of zero groups, the first one of
several; `position` is the index of the list's first group. -/
def longestZeroRun (position : Nat) : List Nat → Nat × Nat
  | [] => (position, 0)
  | group :: rest =>
    let here := zeroRun (group :: rest)
    let later := longestZeroRun (position + 1) rest
    if here ≥ later.2 then (position, here) else later

/-- Groups in hexadecimal with colons between them. -/
def groupsText (groups : List Nat) : List Char :=
  [':'].intercalate (groups.map (Nat.toDigits 16))

/-- The written form in hexadecimal groups alone.  The longest run of at least
two zero groups is left out. -/
def toHexChars (address : V6) : List Char :=
  let groups := address.groups
  let (start, length) := longestZeroRun 0 groups
  if length < 2 then groupsText groups
  else groupsText (groups.take start) ++ [':', ':'] ++ groupsText (groups.drop (start + length))

/-- The IPv4 address that an address of the form `::ffff:a.b.c.d` stands for. -/
def mapped? (address : V6) : Option V4 :=
  if address.value / 0x100000000 = 0xFFFF then some (V4.ofNat address.value) else none

/-- The written form; a mapped IPv4 address is written in octets. -/
def toChars (address : V6) : List Char :=
  match address.mapped? with
  | some inner => "::ffff:".toList ++ inner.toChars
  | none => address.toHexChars

end V6

end FieldSurvey.Address
