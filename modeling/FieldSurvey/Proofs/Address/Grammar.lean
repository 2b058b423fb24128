import FieldSurvey.Proofs.Address.Texts
import FieldSurvey.Proofs.Text.Grammar

/-!
# The grammar of address ranges

A piece of a list of address ranges has one of three forms: an address, two addresses with a dash
between them, or an address and a prefix length with a slash between them.  No text has two of
them, because neither mark occurs in an address or a number.  So a piece is read, by the marks that
it holds, as the range that its form stands for, and is refused if it has none.
-/

namespace FieldSurvey

theorem Number.isBlank_of_isLiteral {n : Nat} {cs : List Char} (literal : IsLiteral n cs) :
    ∀ c ∈ cs, Text.isBlank c = false := by
  intro c member
  rcases literal.isDigit_or_of_mem member with isDigit | rfl
  · exact Text.isBlank_of_isRangeMark (by simp [Text.isRangeMark, isDigit])
  · decide

namespace Address

open Text (Padded)

/-! ## Literals of addresses -/

namespace V4

variable {address : V4} {cs : List Char} {octet : Nat}

/-- Whether a text is an octet in decimal digits, without a zero in front of other digits. -/
structure IsOctet (octet : Nat) (cs : List Char) : Prop extends Number.IsNumeral octet cs where
  small : octet < 256
  canonical : ∀ rest, cs = '0' :: rest → rest = []

/-- Whether a text is the literal of an address: its octets with points between them. -/
def IsLiteral (address : V4) (cs : List Char) : Prop :=
  ∃ parts, List.Forall₂ IsOctet address.octets parts ∧ cs = ['.'].intercalate parts

theorem octet?_eq_some_iff : octet? cs = some octet ↔ IsOctet octet cs := by
  unfold octet?
  split
  case h_1 =>
    constructor
    · intro impossible
      contradiction
    · intro isOctet
      exact absurd rfl isOctet.ne_nil
  case h_2 c rest =>
    constructor
    · intro impossible
      contradiction
    · intro isOctet
      exact absurd (isOctet.canonical _ rfl) (List.cons_ne_nil c rest)
  case h_3 rest =>
    constructor
    · intro impossible
      contradiction
    · intro isOctet
      exact absurd (isOctet.digits '+' List.mem_cons_self) Number.not_isDigit_plus
  case h_4 filled noZero unsigned =>
    rw [Text.toOption_eq_some_iff, Number.read_eq_ok_iff]
    constructor
    · rintro ⟨numeral | ⟨digits, signed, -⟩, within⟩
      · refine ⟨numeral, Nat.lt_succ_of_le within, ?_⟩
        rintro (_ | ⟨c, rest⟩) zero
        · rfl
        · exact absurd zero (noZero c rest)
      · exact absurd signed (unsigned digits)
    · intro isOctet
      exact ⟨Or.inl isOctet.toIsNumeral, Nat.le_of_lt_succ isOctet.small⟩

theorem octets_ofOctets {a b c d : Nat} (ha : a < 256) (hb : b < 256) (hc : c < 256)
    (hd : d < 256) : (ofOctets a b c d).octets = [a, b, c, d] := by
  simp only [ofOctets, ofNat, octets, List.cons.injEq, and_true]
  omega

theorem isDigit_or_of_isLiteral {c : Char} (literal : address.IsLiteral cs) (member : c ∈ cs) :
    c.isDigit ∨ c = '.' := by
  obtain ⟨parts, octets, rfl⟩ := literal
  rcases Text.mem_intercalate member with isPoint | ⟨part, inParts, inside⟩
  · exact Or.inr isPoint
  · obtain ⟨octet, isOctet⟩ := Text.exists_of_forall₂ octets part inParts
    exact Or.inl (isOctet.digits c inside)

/-- Just the literals of addresses are read. -/
theorem ofChars?_eq_some_iff : ofChars? cs = some address ↔ address.IsLiteral cs := by
  constructor
  · intro reads
    unfold ofChars? at reads
    split at reads
    · next a b c d parts =>
        simp only [Option.bind_eq_bind, Option.bind_eq_some_iff] at reads
        obtain ⟨a', ha, b', hb, c', hc, d', hd, same⟩ := reads
        cases same
        have ha := octet?_eq_some_iff.mp ha
        have hb := octet?_eq_some_iff.mp hb
        have hc := octet?_eq_some_iff.mp hc
        have hd := octet?_eq_some_iff.mp hd
        refine ⟨cs.splitOn '.', ?_, (List.intercalate_splitOn '.').symm⟩
        rw [parts, octets_ofOctets ha.small hb.small hc.small hd.small]
        exact .cons ha (.cons hb (.cons hc (.cons hd .nil)))
    · contradiction
  · rintro ⟨parts, octets, rfl⟩
    have apart : ∀ part ∈ parts, '.' ∉ part := by
      intro part inParts inside
      obtain ⟨octet, isOctet⟩ := Text.exists_of_forall₂ octets part inParts
      exact absurd (isOctet.digits '.' inside) (by decide)
    have filled : parts ≠ [] := by
      rintro rfl
      cases octets
    rw [ofChars?, List.splitOn_intercalate '.' apart filled]
    obtain _ | ⟨first, _ | ⟨second, _ | ⟨third, _ | ⟨fourth, _ | _⟩⟩⟩⟩ := octets
    simp only [octet?_eq_some_iff.mpr first, octet?_eq_some_iff.mpr second,
      octet?_eq_some_iff.mpr third, octet?_eq_some_iff.mpr fourth]
    exact congrArg some address.ofOctets_octets

/-- An address has one literal, its written form. -/
theorem IsLiteral.eq_toChars (literal : address.IsLiteral cs) : cs = address.toChars := by
  have written : ∀ {octets parts}, List.Forall₂ IsOctet octets parts →
      parts = octets.map Number.digits := by
    intro octets parts all
    induction all with
    | nil => rfl
    | cons isOctet _ ih => rw [List.map_cons, ih, isOctet.eq_digits isOctet.canonical]
  obtain ⟨parts, octets, rfl⟩ := literal
  rw [written octets, toChars]

theorem ofText?_eq_some_iff {text : String} :
    ofText? text = some address ↔ text = address.toText := by
  constructor
  · intro reads
    have literal := ofChars?_eq_some_iff.mp reads
    rw [toText, ← literal.eq_toChars, String.ofList_toList]
  · rintro rfl
    rw [ofText?, toText, String.toList_ofList, ofChars?_toChars]

theorem toText_injective : Function.Injective toText := by
  intro first second same
  have reads : ofText? first.toText = some first := ofText?_eq_some_iff.mpr rfl
  rw [ofText?_eq_some_iff.mpr same] at reads
  exact (Option.some.inj reads).symm

theorem isRangeMark_of_isLiteral {c : Char} (literal : address.IsLiteral cs) (member : c ∈ cs) :
    Text.isRangeMark c := by
  rcases isDigit_or_of_isLiteral literal member with isDigit | rfl
  · simp [Text.isRangeMark, isDigit]
  · decide

theorem not_mem_of_isLiteral {mark : Char} (noDigit : mark.isDigit = false) (noPoint : mark ≠ '.')
    (literal : address.IsLiteral cs) : mark ∉ cs := by
  intro member
  rcases isDigit_or_of_isLiteral literal member with isDigit | isPoint
  · rw [noDigit] at isDigit
    contradiction
  · exact noPoint isPoint

/-- Whether two addresses have the first bits in common; bits are counted from the highest. -/
def SharesPrefix (bits : Nat) (first second : V4) : Prop :=
  ∀ i < bits, first.value.testBit (31 - i) = second.value.testBit (31 - i)

end V4

/-! ## Forms of ranges -/

namespace Range

variable {range : Range} {piece cs left right : List Char} {address : V4} {form : Form}

/-- The forms in which a range can be written. -/
inductive Form where
  | single (address : V4)
  | interval (a b : V4)
  | block (address : V4) (bits : Nat)

namespace Form

/-- Whether a text has the form, with blanks around its parts as one likes. -/
def Written : Form → List Char → Prop
  | single address, cs => Padded address.IsLiteral cs
  | interval a b, cs => ∃ left right, Padded a.IsLiteral left ∧ Padded b.IsLiteral right ∧
      cs = left ++ '-' :: right
  | block address bits, cs => ∃ left right, Padded address.IsLiteral left ∧
      Padded (Number.IsLiteral bits) right ∧ bits ≤ 32 ∧ cs = left ++ '/' :: right

/-- Whether an address is one of those that the form stands for. -/
def Means : Form → V4 → Prop
  | single only, address => address = only
  | interval a b, address => min a.value b.value ≤ address.value ∧
      address.value ≤ max a.value b.value
  | block around bits, address => address.SharesPrefix bits around

/-- The range that a form is read as. -/
def toRange : Form → Range
  | single address => .single address
  | interval a b => between a b
  | block address bits => .block address bits

end Form

/-- Whether a text is one of the forms of a range, which belongs to no interface. -/
def Stands (cs : List Char) (range : Range) : Prop :=
  ∃ form : Form, form.Written cs ∧ range.nic = none ∧
    ∀ address, range.contains address ↔ form.Means address

/-! ## What a form stands for -/

theorem contains_single (only : V4) : (single only).contains address ↔ address = only := by
  rw [contains_iff]
  constructor
  · rintro ⟨above, below⟩
    exact V4.eq_of_value_eq (Nat.le_antisymm below above)
  · rintro rfl
    exact ⟨Nat.le_refl _, Nat.le_refl _⟩

theorem contains_between (a b : V4) : (between a b).contains address ↔
    min a.value b.value ≤ address.value ∧ address.value ≤ max a.value b.value := by
  rw [contains_iff]
  unfold between
  split
  · next ordered => rw [Nat.min_eq_left ordered, Nat.max_eq_right ordered]
  · next turned =>
      have ordered : b.value ≤ a.value := by omega
      rw [Nat.min_eq_right ordered, Nat.max_eq_left ordered]

theorem contains_block_iff_div {bits : Nat} (around : V4) : (block around bits).contains address ↔
    address.value / blockSize bits = around.value / blockSize bits := by
  have positive := blockSize_pos bits
  rw [contains_iff, Nat.div_eq_iff positive]
  change blockStart around bits ≤ _ ∧ _ ≤ blockEnd around bits ↔ _
  rw [blockEnd, blockStart, Nat.add_sub_assoc positive]

theorem shares_iff_div {bits : Nat} (within : bits ≤ 32) (first second : V4) :
    first.SharesPrefix bits second ↔
      first.value / blockSize bits = second.value / blockSize bits := by
  have size : blockSize bits = 2 ^ (32 - bits) := rfl
  rw [size]
  constructor
  · intro shares
    apply Nat.eq_of_testBit_eq
    intro i
    rw [Nat.testBit_div_two_pow, Nat.testBit_div_two_pow]
    by_cases high : i + (32 - bits) < 32
    · have same := shares (31 - (i + (32 - bits))) (by omega)
      rwa [Nat.sub_sub_self (by omega)] at same
    · -- no address has a bit that high
      have beyond : 2 ^ 32 ≤ 2 ^ (i + (32 - bits)) := Nat.pow_le_pow_right (by decide) (by omega)
      rw [Nat.testBit_lt_two_pow (Nat.lt_of_lt_of_le first.value_lt beyond),
        Nat.testBit_lt_two_pow (Nat.lt_of_lt_of_le second.value_lt beyond)]
  · intro same i inside
    have shifted : 31 - i = (bits - 1 - i) + (32 - bits) := by omega
    rw [shifted, ← Nat.testBit_div_two_pow, ← Nat.testBit_div_two_pow, same]

/-- The range that a written form is read as holds the addresses that the form stands for. -/
theorem contains_toRange (written : form.Written cs) :
    form.toRange.contains address ↔ form.Means address := by
  cases form with
  | single only => exact contains_single only
  | interval a b => exact contains_between a b
  | block around bits =>
      obtain ⟨left, right, -, -, within, -⟩ := written
      exact (contains_block_iff_div around).trans (shares_iff_div within address around).symm

theorem nic_between (a b : V4) : (between a b).nic = none := by
  unfold between
  split <;> rfl

theorem nic_toRange (form : Form) : form.toRange.nic = none := by
  cases form with
  | single only => rfl
  | interval a b => exact nic_between a b
  | block around bits => rfl

/-- Ranges of one interface with the same addresses are the same. -/
theorem eq_of_contains {other : Range} (nic : range.nic = other.nic)
    (same : ∀ address, range.contains address ↔ other.contains address) : range = other := by
  have holds : ∀ address, Holds [range] address ↔ Holds [other] address := by
    simpa [Holds] using same
  have bounds := Separate.map_interval_eq (List.pairwise_singleton Before range)
    (List.pairwise_singleton Before other) holds
  obtain ⟨low, high⟩ := Prod.mk.inj (List.singleton_inj.mp bounds)
  cases range
  cases other
  cases low
  cases high
  cases nic
  rfl

theorem stands_iff : Stands cs range ↔ ∃ form : Form, form.Written cs ∧ range = form.toRange := by
  refine exists_congr fun form => and_congr_right fun written => ?_
  constructor
  · rintro ⟨unnamed, means⟩
    apply eq_of_contains (unnamed.trans (nic_toRange form).symm)
    intro address
    rw [means, contains_toRange written]
  · rintro rfl
    exact ⟨nic_toRange form, fun _ => contains_toRange written⟩

/-! ## Reading pieces -/

theorem readAddress_eq_ok_iff {other : List Char} (same : Text.trim other = Text.trim cs) :
    readAddress piece other = .ok address ↔ Padded address.IsLiteral cs := by
  have solid : ∀ core, address.IsLiteral core → ∀ c ∈ core, Text.isBlank c = false := by
    intro core literal c member
    exact Text.isBlank_of_isRangeMark (V4.isRangeMark_of_isLiteral literal member)
  rw [Text.padded_iff solid, ← V4.ofChars?_eq_some_iff, readAddress, same]
  split
  · next read => simp [read]
  · next refused => simp [refused]

theorem readBits_eq_ok_iff {bits : Nat} : Number.read Number.maxByte (Text.trim cs) = .ok bits ↔
    Padded (Number.IsLiteral bits) cs ∧ bits ≤ Number.maxByte := by
  rw [Number.read_eq_ok_iff, Text.padded_iff fun _ => Number.isBlank_of_isLiteral]

theorem cidr_eq_ok_iff {bits : Nat} :
    cidr address bits = .ok range ↔ bits ≤ 32 ∧ range = block address bits := by
  unfold cidr
  split
  · next within => simp [within, eq_comm]
  · next beyond => simp [beyond]

theorem solid_slash : Text.isBlank '/' = false :=
  rfl

theorem solid_dash : Text.isBlank '-' = false :=
  rfl

theorem slash_not_mem_padded (padded : Padded address.IsLiteral cs) : '/' ∉ cs :=
  Text.not_mem_of_padded solid_slash (fun _ => V4.not_mem_of_isLiteral rfl (by decide)) padded

theorem dash_not_mem_padded (padded : Padded address.IsLiteral cs) : '-' ∉ cs :=
  Text.not_mem_of_padded solid_dash (fun _ => V4.not_mem_of_isLiteral rfl (by decide)) padded

/-- A text with a slash is read as a block, if at all. -/
theorem readPiece_of_slash (splits : Text.splitOnce '/' cs = some (left, right)) :
    readPiece (Text.trim cs) = .ok range ↔
      ∃ address bits, Padded address.IsLiteral left ∧ Padded (Number.IsLiteral bits) right ∧
        bits ≤ 32 ∧ range = block address bits := by
  have parts := Text.splitOnce_trim solid_slash cs
  rw [splits] at parts
  simp only [readPiece, parts, Option.map_some, Text.trim_trimEnd]
  constructor
  · intro reads
    split at reads
    · contradiction
    · next bits isRead =>
        obtain ⟨address, isAddress, isBlock⟩ := Text.bind_eq_ok_iff.mp reads
        obtain ⟨within, same⟩ := cidr_eq_ok_iff.mp isBlock
        have isAddress := (readAddress_eq_ok_iff (Text.trim_trimStart left)).mp isAddress
        exact ⟨address, bits, isAddress, (readBits_eq_ok_iff.mp isRead).1, within, same⟩
  · rintro ⟨address, bits, isAddress, isBits, within, same⟩
    have small : bits ≤ Number.maxByte := Nat.le_trans within (by decide)
    rw [readBits_eq_ok_iff.mpr ⟨isBits, small⟩]
    exact Text.bind_eq_ok_iff.mpr ⟨address,
      (readAddress_eq_ok_iff (Text.trim_trimStart left)).mpr isAddress,
      cidr_eq_ok_iff.mpr ⟨within, same⟩⟩

/-- A text with a dash and no slash is read as an interval, if at all. -/
theorem readPiece_of_dash (noSlash : '/' ∉ cs)
    (splits : Text.splitOnce '-' cs = some (left, right)) :
    readPiece (Text.trim cs) = .ok range ↔
      ∃ a b, Padded a.IsLiteral left ∧ Padded b.IsLiteral right ∧ range = between a b := by
  have whole := Text.splitOnce_trim solid_slash cs
  rw [Text.splitOnce_of_not_mem noSlash] at whole
  have parts := Text.splitOnce_trim solid_dash cs
  rw [splits] at parts
  simp only [readPiece, whole, parts, Option.map_none, Option.map_some, Text.bind_eq_ok_iff,
    readAddress_eq_ok_iff (Text.trim_trimStart left),
    readAddress_eq_ok_iff (Text.trim_trimEnd right)]
  constructor
  · rintro ⟨a, isFirst, b, isSecond, same⟩
    exact ⟨a, b, isFirst, isSecond, (Except.ok.inj same).symm⟩
  · rintro ⟨a, b, isFirst, isSecond, same⟩
    exact ⟨a, isFirst, b, isSecond, congrArg Except.ok same.symm⟩

/-- A text without marks is read as an address, if at all. -/
theorem readPiece_of_unmarked (noSlash : '/' ∉ cs) (noDash : '-' ∉ cs) :
    readPiece (Text.trim cs) = .ok range ↔
      ∃ address, Padded address.IsLiteral cs ∧ range = single address := by
  have whole := Text.splitOnce_trim solid_slash cs
  rw [Text.splitOnce_of_not_mem noSlash] at whole
  have parts := Text.splitOnce_trim solid_dash cs
  rw [Text.splitOnce_of_not_mem noDash] at parts
  simp only [readPiece, whole, parts, Option.map_none, Text.bind_eq_ok_iff,
    readAddress_eq_ok_iff (Text.trim_trim cs)]
  constructor
  · rintro ⟨address, isAddress, same⟩
    exact ⟨address, isAddress, (Except.ok.inj same).symm⟩
  · rintro ⟨address, isAddress, same⟩
    exact ⟨address, isAddress, congrArg Except.ok same.symm⟩

/-- A piece is read just if it is one of the forms of a range. -/
theorem readPiece_trim_eq_ok_iff : readPiece (Text.trim cs) = .ok range ↔ Stands cs range := by
  rw [stands_iff]
  constructor
  · intro reads
    cases slash : Text.splitOnce '/' cs with
    | some parts =>
        obtain ⟨address, bits, isAddress, isBits, within, same⟩ :=
          (readPiece_of_slash slash).mp reads
        exact ⟨.block address bits, ⟨_, _, isAddress, isBits, within,
          (Text.splitOnce_eq_some_iff.mp slash).2⟩, same⟩
    | none =>
        have noSlash := Text.splitOnce_eq_none_iff.mp slash
        cases dash : Text.splitOnce '-' cs with
        | some parts =>
            obtain ⟨a, b, isFirst, isSecond, same⟩ := (readPiece_of_dash noSlash dash).mp reads
            exact ⟨.interval a b, ⟨_, _, isFirst, isSecond,
              (Text.splitOnce_eq_some_iff.mp dash).2⟩, same⟩
        | none =>
            have noDash := Text.splitOnce_eq_none_iff.mp dash
            obtain ⟨address, isAddress, same⟩ := (readPiece_of_unmarked noSlash noDash).mp reads
            exact ⟨.single address, isAddress, same⟩
  · rintro ⟨form, written, same⟩
    cases form with
    | single address =>
        exact (readPiece_of_unmarked (slash_not_mem_padded written)
          (dash_not_mem_padded written)).mpr ⟨address, written, same⟩
    | interval a b =>
        obtain ⟨left, right, isFirst, isSecond, rfl⟩ := written
        have noSlash : '/' ∉ left ++ '-' :: right := by
          simp [slash_not_mem_padded isFirst, slash_not_mem_padded isSecond]
        have splits : Text.splitOnce '-' (left ++ '-' :: right) = some (left, right) :=
          Text.splitOnce_append (dash_not_mem_padded isFirst)
        exact (readPiece_of_dash noSlash splits).mpr ⟨a, b, isFirst, isSecond, same⟩
    | block address bits =>
        obtain ⟨left, right, isAddress, isBits, within, rfl⟩ := written
        have splits : Text.splitOnce '/' (left ++ '/' :: right) = some (left, right) :=
          Text.splitOnce_append (slash_not_mem_padded isAddress)
        exact (readPiece_of_slash splits).mpr ⟨address, bits, isAddress, isBits, within, same⟩

/-- Lists of ranges are read by the grammar of their pieces. -/
theorem parse_goesBy (text : String) : Text.GoesBy Stands ofText parse text := by
  apply Text.goesBy_of_read
  · rw [parse, piecesOf, Text.filter_map_trim]
    rfl
  · intro piece _ range
    exact readPiece_trim_eq_ok_iff
  · intro piece filled
    rw [ofText, String.toList_ofList]
    exact if_neg (mt List.isEmpty_iff.mp (mt Text.trim_eq_nil_iff.mp filled))

end Range

end Address

end FieldSurvey
