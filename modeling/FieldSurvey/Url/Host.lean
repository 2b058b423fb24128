import FieldSurvey.Address.Ip
import FieldSurvey.Url.Name.Ascii
import FieldSurvey.Url.Percent

/-!
# Hosts of urls

A host is a name or an address.  The special schemes know IPv4 addresses, in
several notations, and write names of any script in ASCII; for other schemes a name
is opaque and kept as it is, and only IPv6 addresses in brackets are read.
-/

namespace FieldSurvey.Url

open Address (V4 V6)

/-- The host of a url. -/
inductive Host where
  | name (text : String)
  | v4 (address : V4)
  | v6 (address : V6)
  deriving DecidableEq

namespace Host

/-- The written form; an IPv6 address stands in brackets and in hexadecimal
groups alone. -/
def toText : Host → String
  | name text => text
  | v4 address => address.toText
  | v6 address => "[" ++ String.ofList address.toHexChars ++ "]"

/-- Characters that no host contains. -/
def isForbidden (c : Char) : Bool :=
  c.toNat == 0 || "\t\n\r #/:<>?@[\\]^|".toList.contains c

/-- Characters that no name of a special scheme contains. -/
def isForbiddenInName (c : Char) : Bool :=
  isForbidden c || isControl c || c == '%'

/-- The address between brackets that make up the whole text. -/
def bracketed? (cs : List Char) : Option V6 :=
  match cs, cs.getLast? with
  | '[' :: rest, some ']' => V6.ofChars? rest.dropLast
  | _, _ => none

/-- A host of a scheme that is not special. -/
def opaque? (cs : List Char) : Option Host :=
  if cs.head? == some '[' then (bracketed? cs).map v6
  else if cs.any isForbidden then none
  else some (name (String.ofList (encode opaqueSet cs)))

/-- The base of a number in an address, and its digits. -/
def baseOf : List Char → Nat × List Char
  | '0' :: 'x' :: digits => (16, digits)
  | '0' :: 'X' :: digits => (16, digits)
  | '0' :: c :: digits => (8, c :: digits)
  | digits => (10, digits)

/-- A number in an address: decimal, or octal or hexadecimal if its beginning
says so. -/
def number? (cs : List Char) : Option Nat :=
  if cs.isEmpty then none
  else
    let (base, digits) := baseOf cs
    (digits.mapM (Number.digitIn? base)).map fun values =>
      values.foldl (fun value digit => value * base + digit) 0

/-- The parts of a name between its points; a point at the end does not count. -/
def partsOf (cs : List Char) : List (List Char) :=
  let parts := cs.splitOn '.'
  if parts.getLast? == some [] && 1 < parts.length then parts.dropLast else parts

/-- Whether a name has to be an address, because its last part is a number. -/
def endsInNumber (cs : List Char) : Bool :=
  match (partsOf cs).getLast? with
  | some last => (!last.isEmpty && last.all Char.isDigit) || (number? last).isSome
  | none => false

/-- An IPv4 address of one to four numbers, of which the last one fills all the
octets that are left. -/
def address? (cs : List Char) : Option V4 := do
  let parts := partsOf cs
  if 4 < parts.length then none
  else
    let numbers ← parts.mapM number?
    let last ← numbers.getLast?
    let front := numbers.dropLast
    let space := Nat.pow 256 (4 - front.length)
    if front.any (255 < ·) || space ≤ last then none
    else
      let high := front.foldl (fun value number => value * 256 + number) 0
      some (V4.ofNat (high * space + last))

/-- The characters of a host in which percent signs stand for bytes. -/
def decoded? (cs : List Char) : Option (List Char) :=
  (String.fromUTF8? (ByteArray.mk (decodeBytes cs).toArray)).map String.toList

/-- A host of a special scheme, which is written in ASCII. -/
def special? (cs : List Char) : Option Host :=
  if cs.head? == some '[' then (bracketed? cs).map v6
  else do
    let ascii ← Name.ascii? (← decoded? cs)
    if ascii.isEmpty || ascii.any isForbiddenInName then none
    else if endsInNumber ascii then (address? ascii).map v4
    else some (name (String.ofList ascii))

end Host

end FieldSurvey.Url
