import FieldSurvey.Port.Range
import FieldSurvey.Proofs.Address.Texts

/-!
# Written ranges

Ranges of ports are read back from their written form, unless they begin with port 0, which cannot
be connected to.  Hence both kinds of ranges, once they were read from some text, are read again
from what they are written as.
-/

namespace FieldSurvey

namespace Port.Range

variable {range : Range} {piece : List Char} {port : Nat}

theorem readPort_digits (usable : 0 < port ∧ port < 0x10000) :
    readPort piece (Number.digits port) = .ok ⟨port, usable⟩ := by
  have trimmed : Text.trim (Number.digits port) = Number.digits port :=
    Text.trim_of_solid fun c member =>
      Text.isBlank_of_isRangeMark (Number.isRangeMark_of_mem_digits member)
  have isShort : port ≤ Number.maxShort := Nat.le_of_lt_succ usable.2
  simp only [readPort, trimmed, Number.read_digits isShort, dif_pos usable]

theorem not_mem_digits_dash {n : Nat} : '-' ∉ Number.digits n := by
  intro member
  exact absurd (Number.isDigit_of_mem_digits member) (by decide)

theorem isRangeMark_of_mem_toChars {c : Char} (member : c ∈ range.toChars) :
    Text.isRangeMark c := by
  unfold toChars at member
  split at member
  · exact Number.isRangeMark_of_mem_digits member
  · rcases List.mem_append.mp member with inLower | inRest
    · exact Number.isRangeMark_of_mem_digits inLower
    · rcases List.mem_cons.mp inRest with rfl | inUpper
      · decide
      · exact Number.isRangeMark_of_mem_digits inUpper

theorem toChars_ne_nil (range : Range) : range.toChars ≠ [] := by
  unfold toChars
  split
  · exact Number.digits_ne_nil _
  · simp

/-- A written range is not the sign for every port. -/
theorem toChars_ne_star (range : Range) : range.toChars ≠ ['*'] := by
  intro same
  have member : '*' ∈ range.toChars := by
    rw [same]
    exact List.mem_singleton_self _
  exact absurd (isRangeMark_of_mem_toChars member) (by decide)

/-- A range of usable ports is read back from its written form. -/
theorem readPiece_toChars (range : Range) (positive : 0 < range.lower) :
    readPiece range.toChars = .ok range := by
  have ordered := range.lower_le_upper
  have bound := range.upper_lt
  have lower : 0 < range.lower ∧ range.lower < 0x10000 := ⟨positive, by omega⟩
  have upper : 0 < range.upper ∧ range.upper < 0x10000 := ⟨by omega, bound⟩
  rw [readPiece, if_neg range.toChars_ne_star]
  by_cases one : range.lower = range.upper
  · have written : range.toChars = Number.digits range.lower := if_pos one
    simp only [written, Text.splitOnce_of_not_mem not_mem_digits_dash, readPort_digits lower]
    cases range
    cases one
    rfl
  · have written : range.toChars = Number.digits range.lower ++ '-' :: Number.digits range.upper :=
      if_neg one
    simp only [written, Text.splitOnce_append not_mem_digits_dash, readPort_digits lower,
      readPort_digits upper]
    exact congrArg Except.ok (dif_pos ordered)

/-- What was read begins with a usable port. -/
theorem lower_of_readPiece (reads : readPiece piece = .ok range) : 0 < range.lower := by
  unfold readPiece at reads
  split at reads
  · cases reads
    decide
  · split at reads
    · obtain ⟨a, -, reads⟩ := Text.exists_of_bind_eq_ok reads
      obtain ⟨b, -, reads⟩ := Text.exists_of_bind_eq_ok reads
      cases reads
      unfold between
      split
      · exact a.2.1
      · exact b.2.1
    · obtain ⟨port, -, reads⟩ := Text.exists_of_bind_eq_ok reads
      cases reads
      exact port.2.1

theorem piecesOf_format (ranges : List Range) :
    piecesOf (format ranges).toList = ranges.map toChars := by
  rw [piecesOf, format, String.toList_ofList]
  exact Text.pieces_of_written rfl (fun c noSemicolon noComma => by simp [noSemicolon, noComma])
    toChars_ne_nil (fun _ _ member => isRangeMark_of_mem_toChars member) ranges

/-- Ranges of usable ports are read back from the written form of a list. -/
theorem parse_format {ranges : List Range} (usable : ∀ range ∈ ranges, 0 < range.lower) :
    parse (format ranges) = .ok ranges := by
  rw [parse, piecesOf_format]
  have each : ∀ range ∈ ranges, readPiece range.toChars = .ok (id range) := fun range member =>
    readPiece_toChars range (usable range member)
  rw [Text.mapM_map_eq_ok each, List.map_id]

theorem usable_of_parse {text : String} {ranges : List Range} (reads : parse text = .ok ranges) :
    ∀ range ∈ ranges, 0 < range.lower := by
  intro range member
  obtain ⟨piece, -, fromPiece⟩ := Text.exists_of_mapM_eq_ok reads range member
  exact lower_of_readPiece fromPiece

end Port.Range

/-! ## Round trips -/

/-- Whether a text is what the ranges that it is read as are written as. -/
def IsFixedText {α : Type} (parse : String → Except ParseError (List α))
    (format : List α → String) (text : String) : Prop :=
  (parse text).map format = .ok text

theorem isFixedText_of_parse {α : Type} {parse : String → Except ParseError (List α)}
    {format : List α → String} {ranges : List α} (reads : parse (format ranges) = .ok ranges) :
    IsFixedText parse format (format ranges) := by
  rw [IsFixedText, reads]
  rfl

/-- Ranges are read back from their written form, those of addresses without their interfaces.
Whatever is read from a text is read again from what it is written as, which is a fixed text. -/
theorem range_texts_round_trip :
    (∀ ranges : List Address.Range,
      Address.Range.parse (Address.Range.format ranges) =
        .ok (ranges.map Address.Range.bare)) ∧
    (∀ ranges : List Port.Range, (∀ range ∈ ranges, 0 < range.lower) →
      Port.Range.parse (Port.Range.format ranges) = .ok ranges) ∧
    (∀ text ranges, Address.Range.parse text = .ok ranges →
      Address.Range.parse (Address.Range.format ranges) = .ok ranges ∧
        IsFixedText Address.Range.parse Address.Range.format (Address.Range.format ranges)) ∧
    (∀ text ranges, Port.Range.parse text = .ok ranges →
      Port.Range.parse (Port.Range.format ranges) = .ok ranges ∧
        IsFixedText Port.Range.parse Port.Range.format (Port.Range.format ranges)) := by
  refine ⟨Address.Range.parse_format, fun _ => Port.Range.parse_format, ?_, ?_⟩
  · intro text ranges reads
    have again : Address.Range.parse (Address.Range.format ranges) = .ok ranges := by
      rw [Address.Range.parse_format, Address.Range.map_bare_of_parse reads]
    exact ⟨again, isFixedText_of_parse again⟩
  · intro text ranges reads
    have again := Port.Range.parse_format (Port.Range.usable_of_parse reads)
    exact ⟨again, isFixedText_of_parse again⟩

/-- Texts with every form of ranges, the ends of some of them in the wrong order. -/
theorem mixed_texts_round_trip :
    (∃ ranges,
      Address.Range.parse "10.0.0.9-10.0.0.3, 10.0.0.2/30;0.0.0.0/0;10.0.0.7" = .ok ranges ∧
      Address.Range.format ranges = "10.0.0.3-10.0.0.9;10.0.0.0/30;0.0.0.0/0;10.0.0.7" ∧
      Address.Range.parse (Address.Range.format ranges) = .ok ranges) ∧
    (∃ ranges, Port.Range.parse " 90-80;4840,* " = .ok ranges ∧
      (∀ range ∈ ranges, 0 < range.lower) ∧
      Port.Range.format ranges = "80-90,4840,1-65535" ∧
      Port.Range.parse (Port.Range.format ranges) = .ok ranges) := by
  obtain ⟨-, ports, addressesAgain, -⟩ := range_texts_round_trip
  constructor
  · refine ⟨[.between (.ofOctets 10 0 0 9) (.ofOctets 10 0 0 3), .block (.ofOctets 10 0 0 2) 30,
      .block (.ofOctets 0 0 0 0) 0, .single (.ofOctets 10 0 0 7)], ?_, ?_, ?_⟩
    · decide +kernel
    · decide +kernel
    · exact (addressesAgain "10.0.0.9-10.0.0.3, 10.0.0.2/30;0.0.0.0/0;10.0.0.7" _
        (by decide +kernel)).1
  · have usable : ∀ range ∈ [Port.Range.between 90 80 (by decide) (by decide),
        Port.Range.single 4840 (by decide), Port.Range.whole], 0 < range.lower := by decide
    exact ⟨_, by decide +kernel, usable, by decide +kernel, ports _ usable⟩

end FieldSurvey
