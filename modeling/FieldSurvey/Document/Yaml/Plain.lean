import FieldSurvey.Document.Yaml.Place

/-!
# Plain scalars of YAML

A plain scalar ends at a colon with a blank after it, or at a comment, and goes
on on the next lines that are indented enough.  In a flow collection it also ends
at the marks that divide one.
-/

namespace FieldSurvey.Yaml

/-- Whether a plain scalar ends in front of a text that is not blank. -/
def endsPlain (around : Surroundings) : List Char → Bool
  | [] => true
  | c :: rest =>
    (c == ':' && (around.edition.endsToken rest ||
      (around.edition == .newer && around.inFlow && rest.head?.any isFlowMark))) ||
    (around.inFlow && isFlowMark c)

/-- Whether a part of a plain scalar may begin in a column. -/
def isWithin (around : Surroundings) (column : Nat) : Bool :=
  around.indent < column

/-- Whether a plain scalar ends at a part that follows a gap. -/
def endsAtPart (around : Surroundings) (mark : Mark) (cs : List Char) : Bool :=
  cs.head? == some '#' || (mark.column = 0 && around.edition.beginsWithMark cs) ||
    (!around.inFlow && !isWithin around mark.column)

/-- Whether a text cannot stand in a plain scalar: in a flow collection, a colon
with a mark after it, or a part that is nothing but a hyphen. -/
def refusesPlain (around : Surroundings) (beginsPart : Bool) : List Char → Bool
  | c :: next :: _ =>
    around.inFlow &&
      match around.edition with
      | .older => c == ':' && (isFlowMark next || next == '?')
      | .newer => beginsPart && c == '-' && isFlowMark next
  | _ => false

/-- The characters of a plain scalar, after those in `seen`, which stand in
reverse, and a gap.  A tab that stands where the line should be indented is
refused; the newer edition passes over a line that holds nothing but a comment
behind it. -/
def plainFrom (around : Surroundings) (seen : List Char) (gap : Gap) (passesLine : Bool)
    (mark : Mark) : List Char → Option (List Char × Place)
  | [] => some (seen, ⟨mark, []⟩)
  | c :: rest =>
    let past := mark.past around.edition c
    if around.edition.isBreak c then
      let counts := mark.isFresh || !gap.isBroken
      plainFrom around seen (if counts then gap.withBreak c else gap) false past rest
    else if passesLine then plainFrom around seen gap true past rest
    else if isSpace c then
      if c == '\t' && gap.isBroken && !isWithin around mark.column then
        if around.edition == .newer && around.edition.endsLine rest then
          plainFrom around seen gap true past rest
        else none
      else plainFrom around seen (gap.withBlank c) false past rest
    else if !gap.isEmpty && endsAtPart around mark (c :: rest) then
      some (seen, ⟨mark, c :: rest⟩)
    else if refusesPlain around (seen.isEmpty || !gap.isEmpty) (c :: rest) then none
    else if endsPlain around (c :: rest) then some (seen, ⟨mark, c :: rest⟩)
    else plainFrom around (c :: (gap.text.reverse ++ seen)) {} false past rest

/-- The plain scalar at a place, and the place of what follows it. -/
def plain? (around : Surroundings) (place : Place) : Option (String × Place) :=
  (plainFrom around [] {} false place.mark place.text).map fun (seen, place) =>
    (String.ofList seen.reverse, place)

end FieldSurvey.Yaml
