import FieldSurvey.Document.Basic

/-!
# Reading JSON text

A JSON text is read into a document.  Every reader returns its value and the
text that is left; readers of nested values carry a bound on the depth and the
number of parts, which the length of the text always meets.
-/

namespace FieldSurvey.JsonReader

/-- Drops the blanks that JSON allows between parts. -/
def skip (cs : List Char) : List Char :=
  cs.dropWhile fun c => c == ' ' || c == '\t' || c == '\n' || c == '\r'

/-- The number of four hexadecimal digits. -/
def unit? (cs : List Char) : Option (Nat × List Char) :=
  let digits := cs.take 4
  if digits.length = 4 then do
    let values ← digits.mapM Number.digitValue?
    some (values.foldl (fun value digit => value * 16 + digit) 0, cs.drop 4)
  else none

/-- The character of an escape that follows `\u`; characters beyond sixteen bits
take two of them. -/
def escapedUnit? (cs : List Char) : Option (Char × List Char) := do
  let (unit, rest) ← unit? cs
  if 0xD800 ≤ unit ∧ unit < 0xDC00 then
    match rest with
    | '\\' :: 'u' :: rest =>
      let (low, rest) ← unit? rest
      if 0xDC00 ≤ low ∧ low < 0xE000 then
        some (Char.ofNat (0x10000 + (unit - 0xD800) * 0x400 + (low - 0xDC00)), rest)
      else none
    | _ => none
  else if 0xDC00 ≤ unit ∧ unit < 0xE000 then none
  else some (Char.ofNat unit, rest)

/-- The character of an escape that follows the backslash. -/
def escaped? (cs : List Char) : Option (Char × List Char) :=
  match cs with
  | '"' :: rest => some ('"', rest)
  | '\\' :: rest => some ('\\', rest)
  | '/' :: rest => some ('/', rest)
  | 'b' :: rest => some (Char.ofNat 8, rest)
  | 'f' :: rest => some (Char.ofNat 12, rest)
  | 'n' :: rest => some ('\n', rest)
  | 'r' :: rest => some ('\r', rest)
  | 't' :: rest => some ('\t', rest)
  | 'u' :: rest => escapedUnit? rest
  | _ => none

/-- The rest of a text up to its closing quote, after the characters `seen`,
which stand in reverse. -/
def textBody (fuel : Nat) (seen cs : List Char) : Option (String × List Char) :=
  match fuel, cs with
  | 0, _ => none
  | _, [] => none
  | _ + 1, '"' :: rest => some (String.ofList seen.reverse, rest)
  | fuel + 1, '\\' :: rest => do
    let (c, rest) ← escaped? rest
    textBody fuel (c :: seen) rest
  | fuel + 1, c :: rest => if c.toNat < 32 then none else textBody fuel (c :: seen) rest

/-- The part of a number that follows a mark and is a run of digits, and the text
after it.  There may be no such part. -/
def marked? (isMark : Char → Bool) (maySign : Bool) (cs : List Char) :
    Option (List Char × List Char) :=
  match cs with
  | [] => some ([], [])
  | c :: rest =>
    if !isMark c then some ([], c :: rest)
    else
      let sign := if maySign then rest.take 1 |>.filter fun c => c == '+' || c == '-' else []
      let rest := rest.drop sign.length
      let run := rest.takeWhile Char.isDigit
      if run.isEmpty then none else some (c :: sign ++ run, rest.drop run.length)

/-- A number without its sign.  It is an integer if it has neither a fraction
nor an exponent; zero with a minus sign is none. -/
def number? (isNegative : Bool) (cs : List Char) : Option (Document × List Char) := do
  let whole := cs.takeWhile Char.isDigit
  if whole.isEmpty || (whole.length > 1 && whole.head? == some '0') then none
  else
    let (fraction, rest) ← marked? (· == '.') false (cs.drop whole.length)
    let (power, rest) ← marked? (fun c => c == 'e' || c == 'E') true rest
    let sign := if isNegative then ['-'] else []
    if fraction.isEmpty && power.isEmpty && !(isNegative && whole == ['0']) then
      some (.integer (← Number.Decimal.integer? (sign ++ whole)), rest)
    else some (.real (← Number.Double.read? (sign ++ whole ++ fraction ++ power)), rest)

/-- Adds a field; of several fields with one name the last one counts. -/
def putField (fields : List (String × Document)) (name : String) (value : Document) :
    List (String × Document) :=
  fields.filter (fun field => field.1 != name) ++ [(name, value)]

mutual

/-- A value. -/
def value (fuel : Nat) (cs : List Char) : Option (Document × List Char) :=
  match fuel with
  | 0 => none
  | fuel + 1 =>
    match skip cs with
    | 'n' :: 'u' :: 'l' :: 'l' :: rest => some (.null, rest)
    | 't' :: 'r' :: 'u' :: 'e' :: rest => some (.bool true, rest)
    | 'f' :: 'a' :: 'l' :: 's' :: 'e' :: rest => some (.bool false, rest)
    | '"' :: rest =>
      (textBody (rest.length + 1) [] rest).map fun (text, rest) => (.text text, rest)
    | '[' :: rest =>
      match skip rest with
      | ']' :: rest => some (.list [], rest)
      | rest => items fuel [] rest
    | '\x7b' :: rest =>
      match skip rest with
      | '\x7d' :: rest => some (.record [], rest)
      | rest => fields fuel [] rest
    | '-' :: rest => number? true rest
    | cs => number? false cs

/-- The items of a list that is not empty, after those in `seen`. -/
def items (fuel : Nat) (seen : List Document) (cs : List Char) :
    Option (Document × List Char) :=
  match fuel with
  | 0 => none
  | fuel + 1 => do
    let (item, rest) ← value fuel cs
    match skip rest with
    | ',' :: rest => items fuel (item :: seen) rest
    | ']' :: rest => some (.list (item :: seen).reverse, rest)
    | _ => none

/-- The fields of a record that is not empty, after those in `seen`. -/
def fields (fuel : Nat) (seen : List (String × Document)) (cs : List Char) :
    Option (Document × List Char) :=
  match fuel with
  | 0 => none
  | fuel + 1 =>
    match skip cs with
    | '"' :: rest => do
      let (name, rest) ← textBody (rest.length + 1) [] rest
      match skip rest with
      | ':' :: rest =>
        let (fieldValue, rest) ← value fuel rest
        let seen := putField seen name fieldValue
        match skip rest with
        | ',' :: rest => fields fuel seen rest
        | '\x7d' :: rest => some (.record seen, rest)
        | _ => none
      | _ => none
    | _ => none

end

/-- Reads a whole text as one value. -/
def document? (text : String) : Option Document := do
  let cs := text.toList
  let (document, rest) ← value (2 * cs.length + 2) cs
  if (skip rest).isEmpty then some document else none

end FieldSurvey.JsonReader
