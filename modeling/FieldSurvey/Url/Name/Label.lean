import FieldSurvey.Url.Name.WritingTable

/-!
# Labels of names

A name is made of labels.  A label does not begin with a mark, it holds the
invisible joiners only where they change how letters are written, and if a label
of the name is written from right to left, no label mixes the directions.
-/

namespace FieldSurvey.Url.Name

/-- The character that keeps two letters from being joined. -/
def nonJoiner : Char := Char.ofNat 0x200C

/-- The character that joins two letters. -/
def joiner : Char := Char.ofNat 0x200D

/-- Whether the nearest character that can be joined is joined in one of the given
ways. -/
def meetsJoined (ways : List Joining) (cs : List Char) : Bool :=
  match cs.dropWhile fun c => Joining.of c == .through with
  | c :: _ => ways.contains (Joining.of c)
  | [] => false

/-- Whether both joiners of a label stand where they may: after a mark that
suppresses a vowel, or, if they separate, between two letters that would be
joined.  `seen` stands in reverse. -/
def joinersFit (seen : List Char) : List Char → Bool
  | [] => true
  | c :: rest =>
    (if c == joiner then seen.head?.any isVirama
      else if c == nonJoiner then
        seen.head?.any isVirama ||
          (meetsJoined [.left, .both] seen && meetsJoined [.right, .both] rest)
      else true) &&
    joinersFit (c :: seen) rest

/-- Whether a character makes its name one with two directions. -/
def turnsName (c : Char) : Bool :=
  match Direction.of c with
  | .right => true
  | .arabicDigit => true
  | _ => false

/-- Whether a label keeps to one direction: its first letter says to which. -/
def keepsDirection (label : List Char) : Bool :=
  let directions := label.map Direction.of
  let last := (directions.reverse.dropWhile (· == .mark)).head?
  match directions.head? with
  | none => true
  | some .left =>
    !directions.any (fun direction => direction == .right || direction == .arabicDigit) &&
      last.any (fun direction => direction == .left || direction == .digit)
  | some .right =>
    !directions.contains .left &&
      !(directions.contains .digit && directions.contains .arabicDigit) &&
      last.any (· != .neutral)
  | some _ => false

/-- Whether a label is one by itself. -/
def isSound (label : List Char) : Bool :=
  !label.head?.any isMark && joinersFit [] label

end FieldSurvey.Url.Name
