/-!
# Editions of YAML

Texts are read by one of two editions of the rules, which differ in their corners:
which characters and line breaks there are, where tabs may stand, and how far
the contents of a block must be indented.
-/

namespace FieldSurvey.Yaml

/-- An edition of the rules. -/
inductive Edition where
  /-- keeps to the characters that can be printed, and leaves the lines of flow
  collections and quoted scalars alone -/
  | older
  /-- takes every character, and wants all lines within a block to be indented -/
  | newer
  deriving DecidableEq, Repr

/-- A blank within a line. -/
def isSpace (c : Char) : Bool :=
  c == ' ' || c == '\t'

/-- The marks that divide flow collections. -/
def isFlowMark (c : Char) : Bool :=
  c == ',' || c == '[' || c == ']' || c == '\x7b' || c == '\x7d'

namespace Edition

/-- Whether a character ends a line, once all breaks that mean the same are
written as one. -/
def isBreak (edition : Edition) (c : Char) : Bool :=
  c == '\n' || (edition == .older && (c.toNat == 0x2028 || c.toNat == 0x2029))

/-- Whether a token that stands before a text has ended. -/
def endsToken (edition : Edition) : List Char → Bool
  | [] => true
  | c :: _ => isSpace c || edition.isBreak c

/-- Whether nothing but a comment is left on the line. -/
def endsLine (edition : Edition) (cs : List Char) : Bool :=
  match cs.dropWhile isSpace with
  | [] => true
  | c :: _ => c == '#' || edition.isBreak c

/-- Whether a text begins with the mark that begins or ends a document. -/
def beginsWithMark (edition : Edition) : List Char → Bool
  | '-' :: '-' :: '-' :: rest => edition.endsToken rest
  | '.' :: '.' :: '.' :: rest => edition.endsToken rest
  | _ => false

/-- Whether the older edition takes a character. -/
def isPrintable (c : Char) : Bool :=
  c == '\t' || c == '\n' || c == '\r' || (' ' ≤ c && c ≤ '~') || c.toNat == 0x85 ||
    (0xA0 ≤ c.toNat && c.toNat != 0xFFFE && c.toNat != 0xFFFF)

/-- A text in which every break that means the same is written the same way. -/
def unifyBreaks (edition : Edition) : List Char → List Char
  | [] => []
  | '\r' :: '\n' :: rest => '\n' :: edition.unifyBreaks rest
  | c :: rest =>
    (if c == '\r' || (edition == .older && c.toNat == 0x85) then '\n' else c) ::
      edition.unifyBreaks rest

/-- The part of a text that is read, if the edition takes its characters. -/
def readable? (edition : Edition) (cs : List Char) : Option (List Char) :=
  match edition with
  | .older => if cs.all isPrintable then some (edition.unifyBreaks cs) else none
  | .newer => some (edition.unifyBreaks (cs.takeWhile fun c => c.toNat != 0))

end Edition

end FieldSurvey.Yaml
