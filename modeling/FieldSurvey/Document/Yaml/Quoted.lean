import FieldSurvey.Document.Yaml.Place
import FieldSurvey.Number.Literal

/-!
# Quoted scalars of YAML

In single quotes, a quote inside is written twice.  In double quotes, a backslash
begins an escape.  Line breaks are folded as in plain scalars, unless a
backslash stands before them.
-/

namespace FieldSurvey.Yaml

/-- The quotes around a scalar. -/
inductive Quotes where
  | single
  | double
  deriving DecidableEq, Repr

/-- The character of the quotes. -/
def Quotes.character : Quotes → Char
  | single => '\''
  | double => '"'

/-- What a character that was read leaves to be done. -/
inductive Pending where
  | nothing
  /-- the second one of two quotes -/
  | quote
  | escape
  /-- some more hexadecimal digits of a character -/
  | digits (count value : Nat)

/-- The character that a letter behind a backslash stands for. -/
def escaped? (c : Char) : Option Char :=
  match c with
  | '0' => some (Char.ofNat 0)
  | 'a' => some (Char.ofNat 7)
  | 'b' => some (Char.ofNat 8)
  | 't' => some '\t'
  | '\t' => some '\t'
  | 'n' => some '\n'
  | 'v' => some (Char.ofNat 11)
  | 'f' => some (Char.ofNat 12)
  | 'r' => some '\r'
  | 'e' => some (Char.ofNat 27)
  | ' ' => some ' '
  | '"' => some '"'
  | '/' => some '/'
  | '\\' => some '\\'
  | 'N' => some (Char.ofNat 0x85)
  | '_' => some (Char.ofNat 0xA0)
  | 'L' => some (Char.ofNat 0x2028)
  | 'P' => some (Char.ofNat 0x2029)
  | _ => none

/-- How many hexadecimal digits a letter behind a backslash asks for. -/
def digitCount? (c : Char) : Option Nat :=
  match c with
  | 'x' => some 2
  | 'u' => some 4
  | 'U' => some 8
  | _ => none

/-- Whether a part of a quoted scalar may begin at a mark, after a gap with a line
break.  The newer edition wants it to be indented, but for a quote right behind
a break that was escaped. -/
def mayBeginPart (around : Surroundings) (quotes : Quotes) (gap : Gap) (mark : Mark)
    (cs : List Char) : Bool :=
  let closesAtOnce := gap.isEscaped && gap.breaks.isEmpty && mark.column == 0 &&
    cs.head? == some quotes.character
  !(mark.column == 0 && around.edition.beginsWithMark cs) &&
    (around.edition == .older || around.indent ≤ mark.column || closesAtOnce)

/-- The characters of a quoted scalar, after those in `seen`, which stand in
reverse, and a gap. -/
def quotedFrom (around : Surroundings) (quotes : Quotes) (seen : List Char) (gap : Gap)
    (pending : Pending) (mark : Mark) : List Char → Option (List Char × Place)
  | [] => none
  | c :: rest =>
    let past := mark.past around.edition c
    match pending with
    | .quote => quotedFrom around quotes (c :: seen) {} .nothing past rest
    | .digits count value =>
      match Number.digitValue? c with
      | none => none
      | some digit =>
        let value := value * 16 + digit
        if 1 < count then quotedFrom around quotes seen {} (.digits (count - 1) value) past rest
        else if value.isValidChar then
          quotedFrom around quotes (Char.ofNat value :: seen) {} .nothing past rest
        else none
    | .escape =>
      if around.edition.isBreak c then
        quotedFrom around quotes seen { isEscaped := true } .nothing past rest
      else
        match digitCount? c, escaped? c with
        | some count, _ => quotedFrom around quotes seen {} (.digits count 0) past rest
        | none, some meant => quotedFrom around quotes (meant :: seen) {} .nothing past rest
        | none, none => none
    | .nothing =>
      if around.edition.isBreak c then
        quotedFrom around quotes seen (gap.withBreak c) .nothing past rest
      else if isSpace c then
        if c == '\t' && gap.isBroken && around.edition == .newer && mark.column < around.indent then
          none
        else quotedFrom around quotes seen (gap.withBlank c) .nothing past rest
      else if gap.isBroken && !mayBeginPart around quotes gap mark (c :: rest) then none
      else
        let seen := gap.text.reverse ++ seen
        if c == quotes.character then
          if quotes = .single ∧ rest.head? = some c then
            quotedFrom around quotes seen {} .quote past rest
          else some (seen, ⟨past, rest⟩)
        else if quotes = .double ∧ c = '\\' then
          quotedFrom around quotes seen {} .escape past rest
        else quotedFrom around quotes (c :: seen) {} .nothing past rest

/-- The quoted scalar at a place, whose first character is its quote, and the
place of what follows it. -/
def quoted? (around : Surroundings) (quotes : Quotes) (place : Place) : Option (String × Place) :=
  let inside := place.drop around.edition 1
  (quotedFrom around quotes [] {} .nothing inside.mark inside.text).map fun (seen, place) =>
    (String.ofList seen.reverse, place)

end FieldSurvey.Yaml
