import FieldSurvey.Text.Basic
import FieldSurvey.Time.Timestamp

/-!
# Reading timestamps

A timestamp is a date, a `T` or a space, a time of day and an offset from UTC.
Every reader returns its value and the text that is left.  Numbers need not be
padded, blanks may stand around the parts, the colon of the offset may be missing,
and years outside 0 to 9999 carry a sign.
-/

namespace FieldSurvey.Time.Reader

open FieldSurvey.Text (trimStart)

/-- The leading decimal digits, at most `limit` of them and at least one. -/
def number (limit : Nat) (cs : List Char) : Option (Nat × List Char) :=
  let digits := (cs.take limit).takeWhile Char.isDigit
  if digits.isEmpty then none
  else some (digits.foldl (fun value c => value * 10 + (c.toNat - '0'.toNat)) 0,
    cs.drop digits.length)

/-- A field of at most two digits after optional blanks. -/
def field (cs : List Char) : Option (Nat × List Char) :=
  number 2 (trimStart cs)

/-- Four digits, or a sign and any number of digits. -/
def year (cs : List Char) : Option (Int × List Char) :=
  match trimStart cs with
  | '-' :: rest => (number rest.length rest).map fun (value, rest) => (-(value : Int), rest)
  | '+' :: rest => (number rest.length rest).map fun (value, rest) => ((value : Int), rest)
  | cs => (number 4 cs).map fun (value, rest) => ((value : Int), rest)

/-- A fixed character after optional blanks. -/
def mark (wanted : Char) (cs : List Char) : Option (List Char) :=
  match trimStart cs with
  | c :: rest => if c = wanted then some rest else none
  | [] => none

/-- An optional point and at least one digit; what follows the ninth digit is
dropped. -/
def fraction (cs : List Char) : Option (Nat × List Char) :=
  match cs with
  | '.' :: rest =>
    (number 9 rest).map fun (value, left) =>
      let count := rest.length - left.length
      (value * Nat.pow 10 (9 - count), if count = 9 then left.dropWhile Char.isDigit else left)
  | cs => some (0, cs)

/-- Exactly two digits. -/
def twoDigits (cs : List Char) : Option (Nat × List Char) :=
  match cs with
  | a :: b :: rest =>
    if a.isDigit && b.isDigit then
      some ((a.toNat - '0'.toNat) * 10 + (b.toNat - '0'.toNat), rest)
    else none
  | _ => none

/-- Hours and minutes after the sign of an offset, in seconds. -/
def offsetSize (cs : List Char) : Option (Nat × List Char) := do
  let (hours, cs) ← twoDigits cs
  let (minutes, cs) ← twoDigits (cs.dropWhile fun c => c == ':' || Text.isBlank c)
  if minutes < 60 then some (hours * 3600 + minutes * 60, cs) else none

/-- The offset from UTC in seconds. -/
def offset (cs : List Char) : Option (Int × List Char) :=
  match cs with
  | c :: rest =>
    if c = 'Z' ∨ c = 'z' then some (0, rest)
    else if c = '+' then (offsetSize rest).map fun (size, rest) => ((size : Int), rest)
    else if c = '-' ∨ c = Char.ofNat 0x2212 then
      (offsetSize rest).map fun (size, rest) => (-(size : Int), rest)
    else if (cs.take 3).map Text.lowerAscii = ['u', 't', 'c'] then some (0, cs.drop 3)
    else none
  | [] => none

/-- Reads a whole text as a timestamp. -/
def timestamp? (text : String) : Option Timestamp := do
  let (year, cs) ← year text.toList
  let (month, cs) ← field (← mark '-' cs)
  let (day, cs) ← field (← mark '-' cs)
  let cs ← match cs with
    | c :: rest => if c = 'T' ∨ c = 't' ∨ c = ' ' then some rest else none
    | [] => none
  let (hour, cs) ← field cs
  let (minute, cs) ← field (← mark ':' cs)
  let (second, cs) ← field (← mark ':' cs)
  let (nanos, cs) ← fraction cs
  let (offset, cs) ← offset (trimStart cs)
  let date : Date := ⟨year, month, day⟩
  if !(trimStart cs).isEmpty || !date.isValid || hour > 23 || minute > 59 || second > 60 ||
      offset.natAbs ≥ 86400 then
    none
  else
    let leap := second == 60
    let secondOfDay : Int := hour * 3600 + minute * 60 + (if leap then 59 else second)
    let seconds := date.toDays * 86400 + secondOfDay - offset
    if isYear (Date.ofDays (seconds / 86400)).year then
      some ⟨seconds, if leap then nanos + 1000000000 else nanos⟩
    else none

end FieldSurvey.Time.Reader
