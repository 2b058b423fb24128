import FieldSurvey.Document.Yaml.Edition
import FieldSurvey.Document.Yaml.Layout

/-!
# The parts of YAML documents

The tokens of a text make up a tree of scalars, lists and records.  What is
missing, such as the value of a field that has none, is an empty plain scalar.
Readers of nested parts carry a bound that the number of tokens always meets.
-/

namespace FieldSurvey.Yaml

/-- A part of a document. -/
inductive Node where
  | scalar (isPlain : Bool) (text : String)
  | list (items : List Node)
  /-- fields with their keys, which may be any parts -/
  | record (fields : List (Node × Node))
  deriving Repr, Inhabited

namespace Node

/-- What stands for a part that is missing. -/
def empty : Node := .scalar true ""

/-- Whether a part of a field of a block is missing in front of some tokens. -/
def endsPart : List Token → Bool
  | .key :: _ => true
  | .value :: _ => true
  | .blockEnd :: _ => true
  | _ => false

/-- Whether an item of a block is missing in front of some tokens. -/
def endsEntry : List Token → Bool
  | .entry :: _ => true
  | .blockEnd :: _ => true
  | _ => false

/-- Whether the value of a flow collection is missing in front of some tokens. -/
def endsFlow (ending : Token) (tokens : List Token) : Bool :=
  tokens.head? == some .comma || tokens.head? == some ending

mutual

/-- The part that some tokens begin with.  Only the value or key of a field may be
a list without a beginning, which is not indented further than the field. -/
def read? (fuel : Nat) (edition : Edition) (inField : Bool) (tokens : List Token) :
    Option (Node × List Token) :=
  match fuel with
  | 0 => none
  | fuel + 1 =>
    match tokens with
    | .scalar isPlain text :: rest => some (.scalar isPlain text, rest)
    | .entry :: _ => if inField then bareItems? fuel edition [] tokens else none
    | .listStart :: rest => items? fuel edition [] rest
    | .recordStart :: rest => fields? fuel edition [] rest
    | .flowListStart :: rest => flowItems? fuel edition true [] rest
    | .flowRecordStart :: rest => flowFields? fuel edition true [] rest
    | _ => none

/-- The list whose items begin with hyphens and that ends with its block, after the
items in `seen`, which stand in reverse. -/
def items? (fuel : Nat) (edition : Edition) (seen : List Node) (tokens : List Token) :
    Option (Node × List Token) :=
  match fuel, tokens with
  | _, .blockEnd :: rest => some (.list seen.reverse, rest)
  | fuel + 1, .entry :: rest =>
    if endsEntry rest then items? fuel edition (empty :: seen) rest
    else do
      let (item, rest) ← read? fuel edition false rest
      items? fuel edition (item :: seen) rest
  | _, _ => none

/-- The list whose items begin with hyphens and that ends where no hyphen follows,
after the items in `seen`, which stand in reverse. -/
def bareItems? (fuel : Nat) (edition : Edition) (seen : List Node) (tokens : List Token) :
    Option (Node × List Token) :=
  match fuel, tokens with
  | fuel + 1, .entry :: rest =>
    if endsEntry rest || endsPart rest then bareItems? fuel edition (empty :: seen) rest
    else do
      let (item, rest) ← read? fuel edition false rest
      bareItems? fuel edition (item :: seen) rest
  | 0, .entry :: _ => none
  | _, tokens => some (.list seen.reverse, tokens)

/-- A part of a field of a block. -/
def part? (fuel : Nat) (edition : Edition) (tokens : List Token) : Option (Node × List Token) :=
  match fuel with
  | 0 => none
  | fuel + 1 =>
    if endsPart tokens then some (empty, tokens) else read? fuel edition true tokens

/-- The record that ends with its block, after the fields in `seen`, which stand in
reverse.  Only the newer edition takes a field without a key. -/
def fields? (fuel : Nat) (edition : Edition) (seen : List (Node × Node)) (tokens : List Token) :
    Option (Node × List Token) :=
  match fuel, tokens with
  | _, .blockEnd :: rest => some (.record seen.reverse, rest)
  | 0, _ => none
  | fuel + 1, tokens => do
    let (key, rest) ← match tokens with
      | .key :: rest => part? fuel edition rest
      | .value :: _ => if edition = .newer then some (empty, tokens) else none
      | _ => none
    let (value, rest) ← match rest with
      | .value :: rest => part? fuel edition rest
      | rest => some (empty, rest)
    fields? fuel edition ((key, value) :: seen) rest

/-- The key of a flow record of a single field.  One that is missing takes the next
token with it. -/
def pairKey? (fuel : Nat) (edition : Edition) (tokens : List Token) :
    Option (Node × List Token) :=
  match fuel with
  | 0 => none
  | fuel + 1 =>
    if tokens.head? == some .value || endsFlow .flowListEnd tokens then
      some (empty, tokens.drop 1)
    else read? fuel edition false tokens

/-- The value of a field of a flow collection that ends with the given token. -/
def flowValue? (fuel : Nat) (edition : Edition) (ending : Token) (tokens : List Token) :
    Option (Node × List Token) :=
  match fuel, tokens with
  | fuel + 1, .value :: rest =>
    if endsFlow ending rest then some (empty, rest) else read? fuel edition false rest
  | 0, .value :: _ => none
  | _, tokens => some (empty, tokens)

/-- The rest of a flow list, after the items in `seen`, which stand in reverse. -/
def flowItems? (fuel : Nat) (edition : Edition) (isFirst : Bool) (seen : List Node)
    (tokens : List Token) : Option (Node × List Token) :=
  match fuel, tokens with
  | _, .flowListEnd :: rest => some (.list seen.reverse, rest)
  | 0, _ => none
  | fuel + 1, tokens => do
    let tokens ← match isFirst, tokens with
      | true, tokens => some tokens
      | false, .comma :: rest => some rest
      | false, _ => none
    match tokens with
    | .flowListEnd :: rest => return (.list seen.reverse, rest)
    | .key :: rest =>
      let (key, rest) ← pairKey? fuel edition rest
      let (value, rest) ← flowValue? fuel edition .flowListEnd rest
      flowItems? fuel edition false (.record [(key, value)] :: seen) rest
    | tokens =>
      let (item, rest) ← read? fuel edition false tokens
      flowItems? fuel edition false (item :: seen) rest

/-- The rest of a flow record, after the fields in `seen`, which stand in reverse.
What no colon makes a key is one without a value. -/
def flowFields? (fuel : Nat) (edition : Edition) (isFirst : Bool) (seen : List (Node × Node))
    (tokens : List Token) : Option (Node × List Token) :=
  match fuel, tokens with
  | _, .flowRecordEnd :: rest => some (.record seen.reverse, rest)
  | 0, _ => none
  | fuel + 1, tokens => do
    let tokens ← match isFirst, tokens with
      | true, tokens => some tokens
      | false, .comma :: rest => some rest
      | false, _ => none
    match tokens with
    | .flowRecordEnd :: rest => return (.record seen.reverse, rest)
    | .key :: rest =>
      let (key, rest) ←
        if rest.head? == some .value || endsFlow .flowRecordEnd rest then some (empty, rest)
        else read? fuel edition false rest
      let (value, rest) ← flowValue? fuel edition .flowRecordEnd rest
      flowFields? fuel edition false ((key, value) :: seen) rest
    | .value :: _ =>
      if edition = .older then none
      else
        let (value, rest) ← flowValue? fuel edition .flowRecordEnd tokens
        flowFields? fuel edition false ((empty, value) :: seen) rest
    | tokens =>
      let (key, rest) ← read? fuel edition false tokens
      flowFields? fuel edition false ((key, empty) :: seen) rest

end

/-- Whether a token begins or ends a document. -/
def isDocumentMark (token : Token) : Bool :=
  token == .documentStart || token == .documentEnd

/-- The part that is a whole document. -/
def content? (edition : Edition) (isMarked : Bool) (tokens : List Token) :
    Option (Node × List Token) :=
  if isMarked && tokens.head?.all isDocumentMark then some (empty, tokens)
  else read? (4 * tokens.length + 4) edition false tokens

/-- The only document of some tokens, if they have one.  The newer edition takes
the mark of an end before it. -/
def ofTokens? (edition : Edition) (tokens : List Token) : Option (Option Node) :=
  let tokens :=
    if edition = .newer then tokens.dropWhile (· == .documentEnd) else tokens
  if tokens.isEmpty then some none
  else do
    let isMarked := tokens.head? == some .documentStart
    let (node, rest) ← content? edition isMarked (if isMarked then tokens.drop 1 else tokens)
    if rest.all (· == .documentEnd) then return some node else none

end Node

end FieldSurvey.Yaml
