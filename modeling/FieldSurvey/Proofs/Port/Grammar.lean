import FieldSurvey.Proofs.Address.Grammar
import FieldSurvey.Proofs.Port.Texts

/-!
# The grammar of port ranges

A piece of a list of port ranges is a star, a port, or two ports with a dash between them, where a
port is a number that can be connected to.  Lists of both kinds of ranges are read by the grammar
of their pieces.
-/

namespace FieldSurvey

namespace Port.Range

open Text (Padded)

variable {range : Range} {piece cs left right : List Char} {port : Nat} {form : Form}

/-! ## Forms of ranges -/

/-- Whether a text is the literal of a port that can be connected to, with blanks around it. -/
def IsPort (port : Nat) (cs : List Char) : Prop :=
  (1 ≤ port ∧ port ≤ 65535) ∧ Padded (Number.IsLiteral port) cs

/-- The forms in which a range can be written. -/
inductive Form where
  | every
  | single (port : Nat)
  | interval (a b : Nat)

namespace Form

/-- Whether a text has the form, with blanks around its parts as one likes. -/
def Written : Form → List Char → Prop
  | every, cs => Padded (· = ['*']) cs
  | single port, cs => IsPort port cs
  | interval a b, cs => ∃ left right, IsPort a left ∧ IsPort b right ∧ cs = left ++ '-' :: right

/-- Whether a port is one of those that the form stands for. -/
def Means : Form → Nat → Prop
  | every, port => 1 ≤ port ∧ port ≤ 65535
  | single only, port => port = only
  | interval a b, port => min a b ≤ port ∧ port ≤ max a b

end Form

/-- Whether a text is one of the forms of a range. -/
def Stands (cs : List Char) (range : Range) : Prop :=
  ∃ form : Form, form.Written cs ∧ ∀ port, range.contains port ↔ form.Means port

theorem contains_iff : range.contains port ↔ range.lower ≤ port ∧ port ≤ range.upper := by
  simp [contains]

theorem contains_single (only : Nat) (small : only < 0x10000) :
    (single only small).contains port ↔ port = only := by
  rw [contains_iff]
  constructor
  · rintro ⟨above, below⟩
    exact Nat.le_antisymm below above
  · rintro rfl
    exact ⟨Nat.le_refl _, Nat.le_refl _⟩

theorem contains_between {a b : Nat} (ha : a < 0x10000) (hb : b < 0x10000) :
    (between a b ha hb).contains port ↔ min a b ≤ port ∧ port ≤ max a b := by
  rw [contains_iff]
  unfold between
  split
  · next ordered => rw [Nat.min_eq_left ordered, Nat.max_eq_right ordered]
  · next turned =>
      have ordered : b ≤ a := by omega
      rw [Nat.min_eq_right ordered, Nat.max_eq_left ordered]

/-- Ranges with the same ports are the same. -/
theorem eq_of_contains {other : Range}
    (same : ∀ port, range.contains port ↔ other.contains port) : range = other := by
  simp only [contains_iff] at same
  have ordered := range.lower_le_upper
  have ordered' := other.lower_le_upper
  have lower := (same range.lower).mp ⟨Nat.le_refl _, ordered⟩
  have upper := (same range.upper).mp ⟨ordered, Nat.le_refl _⟩
  have lower' := (same other.lower).mpr ⟨Nat.le_refl _, ordered'⟩
  have upper' := (same other.upper).mpr ⟨ordered', Nat.le_refl _⟩
  cases range
  cases other
  simp only [mk.injEq] at *
  omega

/-! ## Reading pieces -/

theorem readPort_eq_ok_iff {other : List Char} {usable : Usable}
    (same : Text.trim other = Text.trim cs) :
    readPort piece other = .ok usable ↔ IsPort usable.1 cs := by
  rw [IsPort, Text.padded_iff fun _ => Number.isBlank_of_isLiteral, readPort, same]
  constructor
  · intro reads
    split at reads
    · contradiction
    · next port isRead =>
        split at reads
        · next bounds =>
            cases reads
            exact ⟨⟨bounds.1, Nat.le_of_lt_succ bounds.2⟩, (Number.read_eq_ok_iff.mp isRead).1⟩
        · contradiction
  · rintro ⟨⟨positive, small⟩, literal⟩
    have isRead : Number.read Number.maxShort (Text.trim cs) = .ok usable.1 :=
      Number.read_eq_ok_iff.mpr ⟨literal, small⟩
    rw [isRead]
    exact dif_pos usable.2

theorem dash_not_mem_of_isPort (isPort : IsPort port cs) : '-' ∉ cs := by
  refine Text.not_mem_of_padded Address.Range.solid_dash ?_ isPort.2
  intro core literal member
  rcases literal.isDigit_or_of_mem member with isDigit | isPlus
  · exact absurd isDigit (by decide)
  · exact absurd isPlus (by decide)

theorem exists_usable (isPort : IsPort port cs) : ∃ usable : Usable, usable.1 = port :=
  ⟨⟨port, isPort.1.1, Nat.lt_succ_of_le isPort.1.2⟩, rfl⟩

theorem padded_star_iff : Padded (· = ['*']) cs ↔ Text.trim cs = ['*'] := by
  apply Text.padded_iff
  rintro _ rfl c member
  rw [List.mem_singleton.mp member]
  rfl

/-- What is read has a form that stands for just the ports of the range. -/
theorem stands_of_readPiece (reads : readPiece (Text.trim cs) = .ok range) : Stands cs range := by
  unfold readPiece at reads
  split at reads
  · next star =>
      cases reads
      exact ⟨.every, padded_star_iff.mpr star, fun _ => contains_iff⟩
  · rw [Text.splitOnce_trim Address.Range.solid_dash] at reads
    cases dash : Text.splitOnce '-' cs with
    | some parts =>
        simp only [dash, Option.map_some] at reads
        obtain ⟨a, isFirst, reads⟩ := Text.bind_eq_ok_iff.mp reads
        obtain ⟨b, isSecond, reads⟩ := Text.bind_eq_ok_iff.mp reads
        cases reads
        exact ⟨.interval a.1 b.1, ⟨_, _,
          (readPort_eq_ok_iff (Text.trim_trimStart _)).mp isFirst,
          (readPort_eq_ok_iff (Text.trim_trimEnd _)).mp isSecond,
          (Text.splitOnce_eq_some_iff.mp dash).2⟩, fun _ => contains_between _ _⟩
    | none =>
        simp only [dash, Option.map_none] at reads
        obtain ⟨port, isPort, reads⟩ := Text.bind_eq_ok_iff.mp reads
        cases reads
        exact ⟨.single port.1, (readPort_eq_ok_iff (Text.trim_trim _)).mp isPort,
          fun _ => contains_single _ _⟩

theorem not_star_of_isPort (isPort : IsPort port cs) : Text.trim cs ≠ ['*'] := by
  intro star
  have literal := (Text.padded_iff fun _ => Number.isBlank_of_isLiteral).mp isPort.2
  rw [star] at literal
  rcases literal.isDigit_or_of_mem List.mem_cons_self with isDigit | isPlus
  · exact absurd isDigit (by decide)
  · exact absurd isPlus (by decide)

/-- A text that has a form is read as a range of just the ports that the form stands for. -/
theorem exists_readPiece (written : form.Written cs) :
    ∃ range, readPiece (Text.trim cs) = .ok range ∧
      ∀ port, range.contains port ↔ form.Means port := by
  cases form with
  | every =>
      exact ⟨whole, if_pos (padded_star_iff.mp written), fun _ => contains_iff⟩
  | single port =>
      obtain ⟨usable, rfl⟩ := exists_usable written
      have parts := Text.splitOnce_trim Address.Range.solid_dash cs
      rw [Text.splitOnce_of_not_mem (dash_not_mem_of_isPort written)] at parts
      refine ⟨single usable.1 usable.2.2, ?_, fun _ => contains_single _ _⟩
      rw [readPiece, if_neg (not_star_of_isPort written), parts]
      exact Text.bind_eq_ok_iff.mpr
        ⟨usable, (readPort_eq_ok_iff (Text.trim_trim cs)).mpr written, rfl⟩
  | interval a b =>
      obtain ⟨left, right, isFirst, isSecond, rfl⟩ := written
      obtain ⟨a, rfl⟩ := exists_usable isFirst
      obtain ⟨b, rfl⟩ := exists_usable isSecond
      have splits : Text.splitOnce '-' (left ++ '-' :: right) = some (left, right) :=
        Text.splitOnce_append (dash_not_mem_of_isPort isFirst)
      have parts := Text.splitOnce_trim Address.Range.solid_dash (left ++ '-' :: right)
      rw [splits] at parts
      have noStar : Text.trim (left ++ '-' :: right) ≠ ['*'] := by
        intro star
        rw [star] at parts
        contradiction
      refine ⟨between a.1 b.1 a.2.2 b.2.2, ?_, fun _ => contains_between _ _⟩
      rw [readPiece, if_neg noStar, parts]
      exact Text.bind_eq_ok_iff.mpr
        ⟨a, (readPort_eq_ok_iff (Text.trim_trimStart left)).mpr isFirst, Text.bind_eq_ok_iff.mpr
          ⟨b, (readPort_eq_ok_iff (Text.trim_trimEnd right)).mpr isSecond, rfl⟩⟩

/-- A piece is read just if it is one of the forms of a range. -/
theorem readPiece_trim_eq_ok_iff : readPiece (Text.trim cs) = .ok range ↔ Stands cs range := by
  constructor
  · exact stands_of_readPiece
  · rintro ⟨form, written, means⟩
    obtain ⟨other, reads, means'⟩ := exists_readPiece written
    have same : range = other := eq_of_contains fun port => (means port).trans (means' port).symm
    rw [same, reads]

theorem piecesOf_eq (text : String) :
    piecesOf text.toList = (Text.piecesIn text).map Text.trim := by
  have separators : (fun c : Char => c == ',' || c == ';') = Text.isSeparator := by
    funext c
    exact Bool.or_comm _ _
  rw [piecesOf, Text.filter_map_trim, separators]
  rfl

/-- Lists of ranges are read by the grammar of their pieces. -/
theorem parse_goesBy (text : String) : Text.GoesBy Stands ofText parse text := by
  apply Text.goesBy_of_read
  · rw [parse, piecesOf_eq]
  · intro piece _ range
    exact readPiece_trim_eq_ok_iff
  · intro piece _
    rw [ofText, String.toList_ofList]

end Port.Range

/-- A list of ranges is accepted just if each of its pieces is one of the forms of a range, and has
these ranges in the order of the pieces.  Otherwise its first piece that is none is reported. -/
theorem range_lists_go_by_grammar (text : String) :
    Text.GoesBy Address.Range.Stands Address.Range.ofText Address.Range.parse text ∧
      Text.GoesBy Port.Range.Stands Port.Range.ofText Port.Range.parse text :=
  ⟨Address.Range.parse_goesBy text, Port.Range.parse_goesBy text⟩

-- a sign in front of a prefix length is accepted, and so are blank pieces
example : Address.Range.parse "10.0.0.2 - 10.0.0.1;; 10.0.0.0 /+30," =
    .ok [.between (.ofOctets 10 0 0 1) (.ofOctets 10 0 0 2), .block (.ofOctets 10 0 0 0) 30] := by
  decide +kernel

end FieldSurvey
