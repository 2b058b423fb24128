import FieldSurvey.Number.Literal
import FieldSurvey.ParseError
import FieldSurvey.Text.Basic

/-!
# TCP port ranges

A range is the interval between two ports, both included.  It is written as one
port or as two ports with a dash between them; `*` stands for every port that
can be connected to.  In a list ranges are separated by `,` or `;`.
-/

namespace FieldSurvey.Port

/-- An interval of ports. -/
structure Range where
  lower : Nat
  upper : Nat
  lower_le_upper : lower ≤ upper := by decide
  upper_lt : upper < 0x10000 := by decide
  deriving DecidableEq

namespace Range

/-- The range between two ports given in any order. -/
def between (a b : Nat) (ha : a < 0x10000) (hb : b < 0x10000) : Range :=
  if h : a ≤ b then ⟨a, b, h, hb⟩ else ⟨b, a, by omega, ha⟩

/-- The range of one port. -/
def single (port : Nat) (h : port < 0x10000) : Range :=
  ⟨port, port, Nat.le_refl _, h⟩

/-- Every port that can be connected to. -/
def whole : Range :=
  { lower := 1, upper := 65535 }

/-- Every port that can be connected to, as a list. -/
def all : List Range :=
  [whole]

/-- The system ports and the ports registered for OPC UA. -/
def wellKnown : List Range :=
  [{ lower := 1, upper := 1023 }, { lower := 4840, upper := 4843 }]

/-- The ports above the system ports. -/
def unassigned : List Range :=
  [{ lower := 1024, upper := 65535 }]

/-- The ports that OPC UA servers commonly listen on. -/
def opcua : List Range :=
  [{ lower := 4840, upper := 4841 }, { lower := 4843, upper := 4843 },
    { lower := 4848, upper := 4849 }, { lower := 48000, upper := 48050 },
    { lower := 49320, upper := 49320 }, { lower := 51200, upper := 51210 },
    { lower := 53530, upper := 53530 }, { lower := 62541, upper := 62541 }]

/-- The number of ports. -/
def count (range : Range) : Nat :=
  range.upper - range.lower + 1

/-- Whether a port lies in the range. -/
def contains (range : Range) (port : Nat) : Bool :=
  range.lower ≤ port && port ≤ range.upper

/-- The port at a position, counted from the lowest. -/
def get? (range : Range) (index : Nat) : Option Nat :=
  if range.lower + index ≤ range.upper then some (range.lower + index) else none

/-- The ports in ascending order. -/
def toList (range : Range) : List Nat :=
  (List.range range.count).map (range.lower + ·)

/-- The first `n` ports. -/
def take (range : Range) (n : Nat) : List Nat :=
  (List.range (min n range.count)).map (range.lower + ·)

/-- The number of ports over a list of ranges, those that occur in several
ranges counted for each. -/
def total : List Range → Nat
  | [] => 0
  | range :: rest => range.count + total rest

/-- The port at a position in a list of ranges, one range after the other. -/
def nth? : List Range → Nat → Option Nat
  | [], _ => none
  | range :: rest, index =>
    if index < range.count then range.get? index else nth? rest (index - range.count)

/-- The written form, as characters. -/
def toChars (range : Range) : List Char :=
  if range.lower = range.upper then Number.digits range.lower
  else Number.digits range.lower ++ '-' :: Number.digits range.upper

/-- The written form. -/
def toText (range : Range) : String :=
  String.ofList range.toChars

/-- The written form of a list. -/
def format (ranges : List Range) : String :=
  String.ofList ([','].intercalate (ranges.map toChars))

/-- Why port 0 is refused. -/
def zeroReason : String :=
  "port 0 is not a valid port"

/-- A port that can be connected to. -/
abbrev Usable :=
  { port : Nat // 0 < port ∧ port < 0x10000 }

/-- Reads one port, on behalf of the trimmed piece it stands in. -/
def readPort (piece cs : List Char) : Except ParseError Usable :=
  let refuse (reason : String) := .error (.invalidPortRange (String.ofList piece) reason)
  match Number.read Number.maxShort (Text.trim cs) with
  | .error fault => refuse fault.message
  | .ok port =>
    if h : 0 < port ∧ port < 0x10000 then .ok ⟨port, h⟩ else refuse zeroReason

/-- Reads a trimmed piece. -/
def readPiece (piece : List Char) : Except ParseError Range :=
  if piece = ['*'] then .ok whole
  else
    match Text.splitOnce '-' piece with
    | some (a, b) => do
      let a ← readPort piece a
      let b ← readPort piece b
      return between a.1 b.1 a.2.2 b.2.2
    | none => do
      let port ← readPort piece piece
      return single port.1 port.2.2

/-- Reads one range. -/
def ofText (text : String) : Except ParseError Range :=
  readPiece (Text.trim text.toList)

/-- The trimmed pieces of a list of ranges that are not blank. -/
def piecesOf (cs : List Char) : List (List Char) :=
  ((cs.splitOnP fun c => c == ',' || c == ';').map Text.trim).filter fun piece => !piece.isEmpty

/-- Reads a list of ranges; the first piece that is refused decides the
error. -/
def parse (text : String) : Except ParseError (List Range) :=
  (piecesOf text.toList).mapM readPiece

/-- Order by lowest, then highest port. -/
def le (a b : Range) : Bool :=
  a.lower < b.lower || (a.lower == b.lower && a.upper ≤ b.upper)

end Range

end FieldSurvey.Port
