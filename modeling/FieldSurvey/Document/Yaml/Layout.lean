import FieldSurvey.Document.Yaml.Place

/-!
# The layout of YAML

The tokens of a text say where its blocks begin and end.  A block begins where a
token is indented further than the block around it, and ends in front of the
first token that is not indented as far.  A scalar or a flow collection is a key
if a colon follows it; the token that says so is inserted before it.
-/

namespace FieldSurvey.Yaml

/-! ## Tokens -/

/-- A part of a text that has a meaning of its own. -/
inductive Token where
  | documentStart
  | documentEnd
  | listStart
  | recordStart
  /-- the end of a list or record that is laid out as a block -/
  | blockEnd
  /-- the hyphen before an item of a block -/
  | entry
  | key
  | value
  | flowListStart
  | flowListEnd
  | flowRecordStart
  | flowRecordEnd
  /-- the comma between items of a flow collection -/
  | comma
  | scalar (isPlain : Bool) (text : String)
  deriving DecidableEq, Repr

/-! ## Blocks and keys -/

/-- How far the lines of a block are indented. -/
structure Indent where
  column : Nat
  /-- whether a token ends the block; if not, the block is one that its contents
  need not have -/
  isBlock : Bool
  deriving DecidableEq, Repr

/-- A place where something began that may turn out to be a key. -/
structure Candidate where
  mark : Mark
  /-- whether it can be nothing else -/
  isRequired : Bool
  /-- the number of tokens before it -/
  position : Nat
  deriving DecidableEq, Repr

/-- What has been found of a text so far. -/
structure Layout where
  edition : Edition
  place : Place
  /-- the tokens, the last one first -/
  tokens : List Token := []
  /-- how many tokens there are -/
  count : Nat := 0
  /-- the blocks that have not ended, the innermost one first -/
  indents : List Indent := []
  candidate : Option Candidate := none
  /-- the candidates outside of each flow collection that has not ended -/
  outerCandidates : List (Option Candidate) := []
  /-- whether a key may begin here -/
  allowsKey : Bool := true
  /-- where a colon needs no blank after it -/
  adjacentAt : Option Nat := none
  /-- whether a flow record has begun; a colon in a flow collection then does not
  begin one -/
  recordStarted : Bool := false
  /-- whether the last colon began a flow record of a single field -/
  inPair : Bool := false

namespace Layout

/-- Whether the place is inside of a flow collection. -/
def inFlow (layout : Layout) : Bool :=
  !layout.outerCandidates.isEmpty

/-- The column of the place. -/
def column (layout : Layout) : Nat :=
  layout.place.mark.column

/-- The column of the innermost block, and -1 outside of all blocks. -/
def indent (layout : Layout) : Int :=
  match layout.indents with
  | [] => -1
  | innermost :: _ => innermost.column

/-- Whether the innermost indentation is that of a block. -/
def isInBlock (layout : Layout) : Bool :=
  layout.indents.head?.any Indent.isBlock

/-- What a scalar at the place depends on. -/
def surroundings (layout : Layout) : Surroundings :=
  { edition := layout.edition, inFlow := layout.inFlow, indent := layout.indent }

/-- Adds a token. -/
def emit (token : Token) (layout : Layout) : Layout :=
  { layout with tokens := token :: layout.tokens, count := layout.count + 1 }

/-- Adds a token behind a number of others. -/
def insertAt (position : Nat) (token : Token) (layout : Layout) : Layout :=
  let later := layout.count - position
  { layout with
    tokens := layout.tokens.take later ++ token :: layout.tokens.drop later
    count := layout.count + 1 }

/-- Moves on behind a number of characters. -/
def advance (count : Nat) (layout : Layout) : Layout :=
  { layout with place := layout.place.drop layout.edition count }

/-- Leaves the innermost indentation if it is not that of a block. -/
def leaveSoft (layout : Layout) : Layout :=
  if layout.isInBlock then layout else { layout with indents := layout.indents.drop 1 }

/-- Begins a block in a column that lies behind the innermost one; its token goes
behind a number of others. -/
def beginBlock (column position : Nat) (token : Token) (layout : Layout) : Layout :=
  if layout.inFlow then layout
  else
    let layout := if layout.indent ≤ column then layout.leaveSoft else layout
    if layout.indent < column then
      insertAt position token
        { layout with indents := { column, isBlock := true } :: layout.indents }
    else layout

/-- In the newer edition, wants what follows to be indented further than the
innermost block. -/
def indentFurther (layout : Layout) : Layout :=
  if layout.edition = .newer ∧ !layout.inFlow ∧ layout.isInBlock then
    { layout with
      indents := { column := layout.indent.toNat + 1, isBlock := false } :: layout.indents }
  else layout

/-- Ends those of some indentations that lie behind a column, the innermost one
first. -/
def endBehind (column : Int) : List Indent → Layout → Layout
  | [], layout => { layout with indents := [] }
  | innermost :: rest, layout =>
    if column < innermost.column then
      endBehind column rest (if innermost.isBlock then layout.emit .blockEnd else layout)
    else { layout with indents := innermost :: rest }

/-- Ends all blocks behind a column. -/
def endBlocks (column : Int) (layout : Layout) : Layout :=
  if layout.inFlow then layout else endBehind column layout.indents layout

/-- Gives up the candidate for a key. -/
def dropCandidate? (layout : Layout) : Option Layout :=
  if layout.candidate.any Candidate.isRequired then none
  else some { layout with candidate := none }

/-- Takes the place for that of a key, if one may begin here. -/
def saveCandidate? (layout : Layout) : Option Layout :=
  if !layout.allowsKey then some layout
  else do
    let layout ← layout.dropCandidate?
    let isRequired := !layout.inFlow && layout.indent == layout.column && layout.isInBlock
    let candidate : Candidate :=
      { mark := layout.place.mark, isRequired, position := layout.count }
    return { layout with candidate := some candidate }

/-- The longest way from the beginning of a key to its colon. -/
def longestKey : Nat := 1024

/-- Whether the place is too far behind a candidate: on another line, or behind a
long text.  In flow collections the newer edition does not care. -/
def isStale (layout : Layout) (candidate : Candidate) : Bool :=
  (layout.edition == .older || !layout.inFlow) &&
    (candidate.mark.line < layout.place.mark.line ||
      candidate.mark.index + longestKey < layout.place.mark.index)

/-- The candidate that a colon at the place makes a key, if there is one.  A
candidate that is required cannot be passed over. -/
def keyHere? (layout : Layout) : Option (Option Candidate) :=
  match layout.candidate with
  | none => some none
  | some candidate =>
    if !layout.isStale candidate then some (some candidate)
    else if candidate.isRequired then none
    else some none

/-- Whether a tab at the place is passed over between tokens.  The older edition
takes it for indentation where a key may begin; the newer one lets it stand
there only before a comment or the end of the line. -/
def passesTab (layout : Layout) (mark : Mark) (rest : List Char) : Bool :=
  match layout.edition with
  | .older => layout.inFlow || !layout.allowsKey
  | .newer =>
    layout.indents.isEmpty || !mark.isFresh || layout.indent ≤ mark.column ||
      Edition.newer.endsLine rest

/-- The place of the next token behind a mark, and whether a line has ended before
it.  In the older edition a line may begin with a byte order mark. -/
def nextToken? (layout : Layout) (inComment passedBreak : Bool) (mark : Mark) :
    List Char → Option (Bool × Place)
  | [] => some (passedBreak, ⟨mark, []⟩)
  | c :: rest =>
    let past := mark.past layout.edition c
    if layout.edition.isBreak c then layout.nextToken? false true past rest
    else if inComment then layout.nextToken? true passedBreak past rest
    else if c == ' ' then layout.nextToken? false passedBreak past rest
    else if c == '#' then layout.nextToken? true passedBreak past rest
    else if c == '\t' then
      let layout' := { layout with allowsKey := layout.allowsKey || passedBreak }
      if layout'.passesTab mark rest then layout.nextToken? false passedBreak past rest
      else none
    else if c.toNat == 0xFEFF && layout.edition == .older && mark.column == 0 then
      layout.nextToken? false passedBreak past rest
    else some (passedBreak, ⟨mark, c :: rest⟩)

/-- Moves on to the next token.  Outside of flow collections a key may begin on a
new line. -/
def toToken? (layout : Layout) : Option Layout :=
  (layout.nextToken? false false layout.place.mark layout.place.text).map
    fun (passedBreak, place) =>
      { layout with
        place
        allowsKey := layout.allowsKey || (passedBreak && !layout.inFlow) }

/-- In the newer edition, moves on behind blanks and a comment, which must have a
blank before it. -/
def pastComment? (layout : Layout) : Option Layout :=
  match layout.edition with
  | .older => some layout
  | .newer => (layout.place.pastComment? .newer).map fun place => { layout with place }

end Layout

end FieldSurvey.Yaml
