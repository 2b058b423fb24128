import FieldSurvey.Proofs.Address.Merging
import FieldSurvey.Proofs.Number.Literal
import FieldSurvey.Proofs.Text.Pieces

/-!
# Written addresses

An address is read back from its written form.  So is a range, whichever of its three written forms
it has, except for the interface that it names; and so is a list of ranges.
-/

namespace FieldSurvey

/-! ## Characters of written ranges -/

/-- The characters that ranges of addresses or ports are written with. -/
def Text.isRangeMark (c : Char) : Bool :=
  c.isDigit || c == '.' || c == '/' || c == '-'

theorem Text.isBlank_of_isRangeMark {c : Char} (isMark : isRangeMark c) : isBlank c = false := by
  simp only [isRangeMark, Bool.or_eq_true, beq_iff_eq] at isMark
  rcases isMark with ((isDigit | rfl) | rfl) | rfl
  · obtain ⟨lower, upper⟩ := Number.toNat_of_isDigit isDigit
    have bounds : 48 ≤ c.toNat ∧ c.toNat ≤ 57 := ⟨lower, upper⟩
    simp [isBlank]
    omega
  · decide
  · decide
  · decide

/-- What separates the ranges of a list. -/
theorem Text.ne_separator_of_isRangeMark {c : Char} (isMark : isRangeMark c) :
    c ≠ ';' ∧ c ≠ ',' := by
  constructor
  · rintro rfl
    exact absurd isMark (by decide)
  · rintro rfl
    exact absurd isMark (by decide)

/-- A list of ranges is cut into the written forms of its ranges. -/
theorem Text.pieces_of_written {α : Type} {isMark : Char → Bool} {mark : Char}
    {write : α → List Char} (marks : isMark mark)
    (separates : ∀ c, c ≠ ';' → c ≠ ',' → isMark c = false) (nonempty : ∀ value, write value ≠ [])
    (written : ∀ value, ∀ c ∈ write value, isRangeMark c) (values : List α) :
    ((([mark].intercalate (values.map write)).splitOnP isMark).map trim).filter
      (fun piece => !piece.isEmpty) = values.map write := by
  apply pieces_intercalate marks
  · intro piece member
    obtain ⟨value, -, rfl⟩ := List.mem_map.mp member
    exact nonempty value
  · intro piece member c inside
    obtain ⟨value, -, rfl⟩ := List.mem_map.mp member
    have isRangeMark := written value c inside
    obtain ⟨noSemicolon, noComma⟩ := ne_separator_of_isRangeMark isRangeMark
    exact ⟨separates c noSemicolon noComma, isBlank_of_isRangeMark isRangeMark⟩

theorem Number.isRangeMark_of_mem_digits {n : Nat} {c : Char} (member : c ∈ digits n) :
    Text.isRangeMark c := by
  simp [Text.isRangeMark, isDigit_of_mem_digits member]

namespace Address

/-! ## Addresses -/

namespace V4

variable {address : V4}

theorem octet?_digits {octet : Nat} (small : octet < 256) :
    octet? (Number.digits octet) = some octet := by
  revert octet
  decide +kernel

theorem octet_lt (address : V4) : ∀ octet ∈ address.octets, octet < 256 := by
  have bound := address.value_lt
  simp only [octets, List.forall_mem_cons]
  refine ⟨?_, ?_, ?_, ?_, by simp⟩ <;> omega

theorem ofOctets_octets (address : V4) :
    ofOctets (address.value / 0x1000000) (address.value / 0x10000 % 0x100)
      (address.value / 0x100 % 0x100) (address.value % 0x100) = address := by
  cases address with
  | mk value value_lt =>
      simp only [ofOctets, ofNat, mk.injEq]
      omega

theorem not_mem_digits_point {n : Nat} : '.' ∉ Number.digits n := by
  intro member
  exact absurd (Number.isDigit_of_mem_digits member) (by decide)

/-- An address is read back from its written form. -/
theorem ofChars?_toChars (address : V4) : ofChars? address.toChars = some address := by
  have apart : ∀ part ∈ address.octets.map Number.digits, '.' ∉ part := by
    intro part member
    obtain ⟨octet, -, rfl⟩ := List.mem_map.mp member
    exact not_mem_digits_point
  have parts : address.toChars.splitOn '.' = address.octets.map Number.digits :=
    List.splitOn_intercalate '.' apart (by simp [octets])
  obtain ⟨a, b, c, d, -⟩ := by
    simpa only [octets, List.forall_mem_cons] using address.octet_lt
  simp only [ofChars?, parts, octets, List.map_cons, List.map_nil, octet?_digits a,
    octet?_digits b, octet?_digits c, octet?_digits d]
  exact congrArg some address.ofOctets_octets

theorem isDigit_or_of_mem_toChars {c : Char} (member : c ∈ address.toChars) :
    c.isDigit ∨ c = '.' := by
  rcases Text.mem_intercalate member with isPoint | ⟨part, inParts, inside⟩
  · exact Or.inr isPoint
  · obtain ⟨octet, -, rfl⟩ := List.mem_map.mp inParts
    exact Or.inl (Number.isDigit_of_mem_digits inside)

theorem isRangeMark_of_mem_toChars {c : Char} (member : c ∈ address.toChars) :
    Text.isRangeMark c := by
  rcases isDigit_or_of_mem_toChars member with isDigit | rfl
  · simp [Text.isRangeMark, isDigit]
  · decide

theorem not_mem_toChars {mark : Char} (noDigit : mark.isDigit = false) (noPoint : mark ≠ '.') :
    mark ∉ address.toChars := by
  intro member
  rcases isDigit_or_of_mem_toChars member with isDigit | isPoint
  · rw [noDigit] at isDigit
    contradiction
  · exact noPoint isPoint

theorem toChars_ne_nil (address : V4) : address.toChars ≠ [] := by
  intro nothing
  have read := address.ofChars?_toChars
  rw [nothing] at read
  contradiction

end V4

/-! ## Ranges -/

namespace Range

variable {range : Range} {piece : List Char} {bits : Nat}

/-- The range without the name of its interface. -/
def bare (range : Range) : Range :=
  { range with nic := none }

theorem eq_bare {other : Range} (low : other.low = range.low) (high : other.high = range.high)
    (unnamed : other.nic = none) : other = range.bare := by
  cases other
  cases low
  cases high
  cases unnamed
  rfl

theorem bare_of_unnamed (unnamed : range.nic = none) : range.bare = range :=
  (eq_bare rfl rfl unnamed).symm

theorem readAddress_toChars (address : V4) : readAddress piece address.toChars = .ok address := by
  have trimmed : Text.trim address.toChars = address.toChars :=
    Text.trim_of_solid fun c member =>
      Text.isBlank_of_isRangeMark (V4.isRangeMark_of_mem_toChars member)
  simp only [readAddress, trimmed, V4.ofChars?_toChars]

/-- A prefix length that a range has is that of a block of the same size, which begins where the
range does. -/
theorem of_prefixLength? (isBlock : range.prefixLength? = some bits) :
    bits ≤ 32 ∧ range.count = blockSize bits ∧ blockSize bits ∣ range.low.value := by
  have listed := List.mem_range.mp (List.mem_of_find?_eq_some isBlock)
  have suits := List.find?_some isBlock
  simp only [Bool.and_eq_true, beq_iff_eq] at suits
  exact ⟨by omega, suits.1, Nat.dvd_of_mod_eq_zero suits.2⟩

theorem block_eq_bare (isBlock : range.prefixLength? = some bits) :
    block range.low bits = range.bare := by
  obtain ⟨-, size, divides⟩ := of_prefixLength? isBlock
  have ordered := range.low_le_high
  have start : blockStart range.low bits = range.low.value := Nat.div_mul_cancel divides
  have stop : blockEnd range.low bits = range.high.value := by
    rw [blockEnd, start, ← size, count]
    omega
  exact eq_bare (V4.eq_of_value_eq start) (V4.eq_of_value_eq stop) rfl

theorem isRangeMark_of_mem_toChars {c : Char} (member : c ∈ range.toChars) :
    Text.isRangeMark c := by
  unfold toChars at member
  split at member
  · exact V4.isRangeMark_of_mem_toChars member
  · split at member
    · rcases List.mem_append.mp member with inLow | inRest
      · exact V4.isRangeMark_of_mem_toChars inLow
      · rcases List.mem_cons.mp inRest with rfl | inBits
        · decide
        · exact Number.isRangeMark_of_mem_digits inBits
    · rcases List.mem_append.mp member with inLow | inRest
      · exact V4.isRangeMark_of_mem_toChars inLow
      · rcases List.mem_cons.mp inRest with rfl | inHigh
        · decide
        · exact V4.isRangeMark_of_mem_toChars inHigh

theorem toChars_ne_nil (range : Range) : range.toChars ≠ [] := by
  unfold toChars
  split
  · exact V4.toChars_ne_nil _
  · split <;> simp

theorem slash_not_mem_toChars (address : V4) : '/' ∉ address.toChars :=
  V4.not_mem_toChars rfl (by decide)

theorem dash_not_mem_toChars (address : V4) : '-' ∉ address.toChars :=
  V4.not_mem_toChars rfl (by decide)

/-- A single address is read as the range of that address. -/
theorem readPiece_address (address : V4) :
    readPiece address.toChars = .ok (single address) := by
  simp only [readPiece, Text.splitOnce_of_not_mem (slash_not_mem_toChars address),
    Text.splitOnce_of_not_mem (dash_not_mem_toChars address), readAddress_toChars]
  rfl

/-- An address with a prefix length is read as a block. -/
theorem readPiece_block (address : V4) (within : bits ≤ 32) :
    readPiece (address.toChars ++ '/' :: Number.digits bits) = .ok (block address bits) := by
  have trimmed : Text.trim (Number.digits bits) = Number.digits bits :=
    Text.trim_of_solid fun c member =>
      Text.isBlank_of_isRangeMark (Number.isRangeMark_of_mem_digits member)
  have isByte : bits ≤ Number.maxByte := Nat.le_trans within (by decide)
  simp only [readPiece, Text.splitOnce_append (slash_not_mem_toChars address), trimmed,
    Number.read_digits isByte, readAddress_toChars]
  exact if_pos within

/-- Two addresses are read as the range between them. -/
theorem readPiece_interval (low high : V4) :
    readPiece (low.toChars ++ '-' :: high.toChars) = .ok (between low high) := by
  have noSlash : '/' ∉ low.toChars ++ '-' :: high.toChars := by simp [slash_not_mem_toChars]
  simp only [readPiece, Text.splitOnce_of_not_mem noSlash,
    Text.splitOnce_append (dash_not_mem_toChars low), readAddress_toChars]
  rfl

/-- A range is read back from its written form, except for its interface. -/
theorem readPiece_toChars (range : Range) : readPiece range.toChars = .ok range.bare := by
  unfold toChars
  split
  · next one =>
      rw [readPiece_address]
      exact congrArg Except.ok (eq_bare rfl one rfl)
  · split
    · next bits isBlock =>
        rw [readPiece_block _ (of_prefixLength? isBlock).1, block_eq_bare isBlock]
    · rw [readPiece_interval, between, dif_pos range.low_le_high]
      rfl

/-- What was read names no interface. -/
theorem nic_of_readPiece (reads : readPiece piece = .ok range) : range.nic = none := by
  unfold readPiece at reads
  split at reads
  · split at reads
    · contradiction
    · obtain ⟨address, -, isBlock⟩ := Text.exists_of_bind_eq_ok reads
      unfold cidr at isBlock
      split at isBlock
      · cases isBlock
        rfl
      · contradiction
  · split at reads
    · obtain ⟨low, -, reads⟩ := Text.exists_of_bind_eq_ok reads
      obtain ⟨high, -, reads⟩ := Text.exists_of_bind_eq_ok reads
      cases reads
      unfold between
      split <;> rfl
    · obtain ⟨address, -, reads⟩ := Text.exists_of_bind_eq_ok reads
      cases reads
      rfl

/-! ## Lists of ranges -/

theorem piecesOf_format (ranges : List Range) :
    piecesOf (format ranges).toList = ranges.map toChars := by
  rw [piecesOf, format, String.toList_ofList]
  exact Text.pieces_of_written rfl (fun c noSemicolon noComma => by simp [noSemicolon, noComma])
    toChars_ne_nil (fun _ _ member => isRangeMark_of_mem_toChars member) ranges

/-- Ranges are read back from the written form of a list, except for their interfaces. -/
theorem parse_format (ranges : List Range) : parse (format ranges) = .ok (ranges.map bare) := by
  rw [parse, piecesOf_format]
  exact Text.mapM_map_eq_ok fun range _ => readPiece_toChars range

/-- What was read from a text is read back as it is. -/
theorem map_bare_of_parse {text : String} {ranges : List Range} (reads : parse text = .ok ranges) :
    ranges.map bare = ranges := by
  refine (List.map_congr_left fun range member => ?_).trans (List.map_id _)
  obtain ⟨piece, -, fromPiece⟩ := Text.exists_of_mapM_eq_ok reads range member
  exact bare_of_unnamed (nic_of_readPiece fromPiece)

end Range

end Address

end FieldSurvey
