import FieldSurvey.Document.Yaml.Layout
import FieldSurvey.Document.Yaml.Plain
import FieldSurvey.Document.Yaml.Quoted

/-!
# The tokens of YAML

A text is taken apart into tokens from its beginning to its end, one token after
the other.  Anchors, tags, directives and block scalars are not read.
-/

namespace FieldSurvey.Yaml

namespace Layout

/-- Begins or ends a document, which ends all blocks. -/
def document? (layout : Layout) : Option Layout := do
  let token := if layout.place.text.head? == some '-' then Token.documentStart else .documentEnd
  let layout ← (layout.endBlocks (-1)).dropCandidate?
  let layout := { layout with allowsKey := false }.advance 3
  let isClean := layout.edition == .older || token == .documentStart ||
    layout.edition.endsLine layout.place.text
  if isClean then return layout.emit token else none

/-- How deep flow collections may be nested in the newer edition. -/
def deepest : Nat := 255

/-- Begins a flow collection, which may be a key. -/
def openFlow? (token : Token) (layout : Layout) : Option Layout := do
  let layout := (← layout.saveCandidate?).indentFurther
  if layout.edition = .newer ∧ deepest ≤ layout.outerCandidates.length then none
  else
    let inside :=
      { layout with
        candidate := none
        outerCandidates := layout.candidate :: layout.outerCandidates
        allowsKey := true
        recordStarted := layout.recordStarted || token == Token.flowRecordStart }
    return (← (inside.advance 1).pastComment?).emit token

/-- Ends the flow record of a single field. -/
def endPair (layout : Layout) : Layout :=
  if layout.inPair then
    { layout with inPair := false, recordStarted := false }.emit .flowRecordEnd
  else layout

/-- Ends a flow collection.  In another one, a colon right behind it needs no blank
after it. -/
def closeFlow? (token : Token) (layout : Layout) : Option Layout := do
  let layout ← layout.dropCandidate?
  let outside :=
    { layout with
      candidate := layout.outerCandidates.head?.join
      outerCandidates := layout.outerCandidates.drop 1
      allowsKey := false }.endPair
  let layout ← (outside.advance 1).pastComment?
  let adjacentAt := if layout.inFlow then some layout.place.mark.index else layout.adjacentAt
  return { layout with adjacentAt }.emit token

/-- Ends an item of a flow collection. -/
def endItem? (layout : Layout) : Option Layout := do
  let layout := { ← layout.dropCandidate? with allowsKey := true }.endPair
  return (← (layout.advance 1).pastComment?).emit .comma

/-- Whether a text begins with the hyphen of an item. -/
def beginsWithHyphen (edition : Edition) : List Char → Bool
  | '-' :: rest => edition.endsToken rest
  | _ => false

/-- Moves on behind the blanks after a hyphen.  The newer edition takes no tab
between two hyphens, and what does not follow on the same line must be indented
further. -/
def pastHyphen? (layout : Layout) : Option Layout :=
  match layout.edition with
  | .older => some layout
  | .newer => do
    let hasTab := (layout.place.text.takeWhile isSpace).contains '\t'
    let layout ← layout.pastComment?
    if hasTab && beginsWithHyphen .newer layout.place.text then none
    else
      let indentsNext := layout.place.text.head?.any fun c => c == '\n' || isFlowMark c
      return if indentsNext then layout.indentFurther else layout

/-- Begins an item of a block. -/
def beginItem? (layout : Layout) : Option Layout := do
  if layout.inFlow || !layout.allowsKey then none
  else
    let layout := layout.beginBlock layout.column layout.count .listStart
    let layout ← (← (layout.advance 1).pastHyphen?).dropCandidate?
    return { layout with allowsKey := true }.emit .entry

/-- Whether the first tab of a text stands before its first token. -/
def meetsTab (inComment : Bool) : List Char → Bool
  | [] => false
  | c :: rest =>
    if c == '\n' then meetsTab false rest
    else if inComment || c == ' ' then meetsTab inComment rest
    else if c == '#' then meetsTab true rest
    else c == '\t'

/-- Begins a key with a question mark.  The newer edition wants a blank that is no
tab after it. -/
def key? (layout : Layout) : Option Layout := do
  let rest := layout.place.text.drop 1
  if !layout.inFlow && !layout.allowsKey then none
  else if layout.edition == .newer && (rest.isEmpty || meetsTab false rest) then none
  else
    let layout := layout.beginBlock layout.column layout.count .recordStart
    let layout ← layout.dropCandidate?
    let layout :=
      { layout with
        allowsKey := !layout.inFlow
        recordStarted := layout.recordStarted || layout.inFlow }
    return (layout.advance 1).emit .key

/-- Whether a word begins with a character. -/
def beginsWord (c : Char) : Bool :=
  c.isAlphanum || c == '_' || c == '-'

/-- Moves on behind a colon.  The newer edition takes no tab alone between a colon
and a word. -/
def pastColon? (layout : Layout) : Option Layout :=
  let layout := layout.advance 1
  if layout.edition == .newer && layout.place.text.head? == some '\t' then do
    let hasSpace := (layout.place.text.takeWhile isSpace).contains ' '
    let layout ← layout.pastComment?
    if !hasSpace && layout.place.text.head?.any beginsWord then none else some layout
  else some layout

/-- Begins the value of a field whose key began at a candidate. -/
def valueOf? (candidate : Candidate) (colon : Mark) (layout : Layout) : Option Layout :=
  let layout := layout.insertAt candidate.position .key
  if layout.inPair && candidate.mark.line < colon.line then none
  else
    let layout :=
      if layout.inPair then layout.insertAt candidate.position .flowRecordStart else layout
    let layout := layout.beginBlock candidate.mark.column candidate.position .recordStart
    some { layout.indentFurther with candidate := none, allowsKey := false }

/-- Begins the value of a field whose key, if it has one, was begun with a question
mark. -/
def valueOfNone? (colon : Mark) (layout : Layout) : Option Layout :=
  let layout := if layout.inPair then layout.emit .flowRecordStart else layout
  if !layout.inFlow && !layout.allowsKey then none
  else
    let layout := layout.beginBlock colon.column layout.count .recordStart
    some { layout.indentFurther with allowsKey := !layout.inFlow }

/-- Begins the value of a field. -/
def value? (layout : Layout) : Option Layout := do
  let colon := layout.place.mark
  let candidate? ← layout.keyHere?
  let inPair := layout.edition == .newer && layout.inFlow && !layout.recordStarted
  let layout ← { layout with inPair }.pastColon?
  let layout ← match candidate? with
    | some candidate => layout.valueOf? candidate colon
    | none => layout.valueOfNone? colon
  return layout.emit .value

/-- Whether a text may follow a quoted scalar that began on a given line.  The newer
edition wants the line to end, or a mark that belongs to what is around. -/
def mayFollowQuoted (layout : Layout) (line : Nat) : Bool :=
  match layout.edition, layout.place.text with
  | .older, _ => true
  | .newer, [] => true
  | .newer, c :: _ =>
    c == '\n' || (layout.inFlow && (c == ',' || c == ']' || c == '\x7d')) ||
      (c == ':' && (layout.inFlow || line == layout.place.mark.line))

/-- Reads a quoted scalar. -/
def quotedScalar? (quotes : Quotes) (layout : Layout) : Option Layout := do
  let line := layout.place.mark.line
  let layout ← layout.saveCandidate?
  let (text, place) ← quoted? layout.surroundings quotes layout.place
  let layout ← { layout with place, allowsKey := false }.pastComment?
  if !layout.mayFollowQuoted line then none
  else
    let layout ← layout.toToken?
    return { layout with adjacentAt := some layout.place.mark.index }.emit (.scalar false text)

/-- Reads a plain scalar.  In a flow collection the newer edition wants it to be
indented further than the block around. -/
def plainScalar? (layout : Layout) : Option Layout := do
  let layout := (← layout.saveCandidate?).leaveSoft
  if layout.edition = .newer ∧ layout.inFlow ∧ !isWithin layout.surroundings layout.column then none
  else
    let (text, place) ← plain? layout.surroundings layout.place
    return { layout with place, allowsKey := place.mark.isFresh }.emit (.scalar true text)

/-- Characters with which no plain scalar begins. -/
def refusedFirst : List Char := "#&*!|>'\"%@`".toList

/-- Whether a question mark or a colon at the beginning of a text is a token. -/
def isKeyMark (layout : Layout) (rest : List Char) : Bool :=
  layout.edition.endsToken rest || (layout.edition == .older && layout.inFlow)

/-- Whether a colon at the beginning of a text is a token. -/
def isValueMark (layout : Layout) (rest : List Char) : Bool :=
  layout.isKeyMark rest ||
    (layout.inFlow &&
      (rest.head?.any isFlowMark || layout.adjacentAt == some layout.place.mark.index))

/-- Whether a plain scalar begins with a character. -/
def beginsPlain (layout : Layout) (c : Char) : Bool :=
  if layout.edition = .newer ∧ layout.inFlow ∧ (c = '|' ∨ c = '>') then true
  else !refusedFirst.contains c

/-- Reads the token that begins with a character. -/
def token? (c : Char) (rest : List Char) (layout : Layout) : Option Layout :=
  if layout.column = 0 ∧ layout.edition.beginsWithMark (c :: rest) then layout.document?
  else if layout.edition = .newer ∧ layout.column < layout.indent then none
  else if c = '[' then layout.openFlow? .flowListStart
  else if c = '\x7b' then layout.openFlow? .flowRecordStart
  else if c = ']' then layout.closeFlow? .flowListEnd
  else if c = '\x7d' then layout.closeFlow? .flowRecordEnd
  else if c = ',' then layout.endItem?
  else if c = '-' ∧ layout.edition.endsToken rest then layout.beginItem?
  else if c = '?' ∧ layout.isKeyMark rest then layout.key?
  else if c = ':' ∧ layout.isValueMark rest then layout.value?
  else if c = '\'' then layout.quotedScalar? .single
  else if c = '"' then layout.quotedScalar? .double
  else if layout.beginsPlain c then layout.plainScalar?
  else none

/-- The tokens of a layout whose text has come to its end. -/
def finish? (layout : Layout) : Option (List Token) := do
  let layout ← (layout.endBlocks (-1)).dropCandidate?
  return layout.tokens.reverse

/-- The tokens of a text of which a layout has been found. -/
def tokens? : (fuel : Nat) → Layout → Option (List Token)
  | 0, _ => none
  | fuel + 1, layout => do
    let layout ← layout.toToken?
    match layout.place.text with
    | [] => layout.finish?
    | c :: rest => tokens? fuel (← (layout.endBlocks layout.column).token? c rest)

end Layout

/-- The tokens of a text. -/
def tokens? (edition : Edition) (text : List Char) : Option (List Token) :=
  Layout.tokens? (text.length + 1) { edition, place := { text } }

end FieldSurvey.Yaml
