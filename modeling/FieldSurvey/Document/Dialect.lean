import FieldSurvey.Document.Basic

/-!
# Dialects

A dialect says what a scalar of a document may be read as.  In JSON every
scalar has one kind.
-/

namespace FieldSurvey

/-- The fields of a record that is being read.  A record may also be written as
the list of its values in the order in which its type declares them. -/
inductive Fields where
  | named (entries : List (String × Document))
  | positional (items : List Document)

/-- How the parts of a document are read. -/
structure Dialect where
  /-- an absent value, which only an optional field accepts -/
  isNull : Document → Bool
  text? : Document → Option String
  /-- a number below two to the power of `bits` -/
  natural? : (bits : Nat) → Document → Option Nat
  /-- a number that `bits` bits hold in two's complement -/
  integer? : (bits : Nat) → Document → Option Int
  /-- the name of a variant without contents -/
  variant? : Document → Option String
  /-- whether the name of a variant may be written as a text -/
  names : String → String → Bool
  list? : Document → Option (List Document)
  fields? : Document → Option Fields
  /-- whether a list may be longer than the record it is read as -/
  ignoresRest : Bool

/-- Whether `bits` bits hold a number that has no sign. -/
def fitsUnsigned (bits : Nat) (value : Int) : Bool :=
  0 ≤ value && value < Int.ofNat (Nat.pow 2 bits)

/-- Whether `bits` bits hold a number in two's complement. -/
def fitsSigned (bits : Nat) (value : Int) : Bool :=
  -Int.ofNat (Nat.pow 2 (bits - 1)) ≤ value && value < Int.ofNat (Nat.pow 2 (bits - 1))

namespace Dialect

/-- JSON: scalars are what they are written as. -/
def json : Dialect where
  isNull
    | .null => true
    | _ => false
  text?
    | .text value => some value
    | _ => none
  natural? bits
    | .integer value => if fitsUnsigned bits value then some value.toNat else none
    | _ => none
  integer? bits
    | .integer value => if fitsSigned bits value then some value else none
    | _ => none
  variant?
    | .text value => some value
    | .record [(name, .null)] => some name
    | _ => none
  names name text := name == text
  list?
    | .list items => some items
    | _ => none
  fields?
    | .record entries => some (.named entries)
    | .list items => some (.positional items)
    | _ => none
  ignoresRest := false

end Dialect

end FieldSurvey
