import FieldSurvey.Proofs.Text.Pieces
import Mathlib.Data.List.Forall2
import Mathlib.Data.List.TakeWhile

/-!
# Lists that are read by a grammar

A text is cut at its separators, and each piece between them that is not blank is read on its own.
Blanks around a part of a piece do not matter, so that a grammar of pieces speaks of padded parts.
A reader of lists goes by a grammar if it accepts just the lists whose pieces the grammar knows, and
otherwise reports what is wrong with the first of the others.
-/

namespace FieldSurvey.Text

variable {mark c : Char} {cs front core back : List Char}

/-! ## Padded parts -/

/-- Whether a text holds nothing but blanks. -/
def Blank (cs : List Char) : Prop :=
  ∀ c ∈ cs, isBlank c

/-- Whether a text consists of a part of the given form with blanks around it. -/
def Padded (form : List Char → Prop) (cs : List Char) : Prop :=
  ∃ front core back, Blank front ∧ form core ∧ Blank back ∧ cs = front ++ core ++ back

instance (cs : List Char) : Decidable (Blank cs) :=
  inferInstanceAs (Decidable (∀ c ∈ cs, isBlank c))

theorem trimStart_append_of_blank (blank : Blank front) :
    trimStart (front ++ back) = trimStart back :=
  List.dropWhile_append_of_pos blank

theorem trimEnd_append_of_blank (blank : Blank back) : trimEnd (front ++ back) = trimEnd front := by
  have reversed : Blank back.reverse := fun c member => blank c (List.mem_reverse.mp member)
  rw [trimEnd, List.reverse_append, List.dropWhile_append_of_pos reversed, trimEnd]

theorem trimStart_of_blank (blank : Blank cs) : trimStart cs = [] :=
  List.dropWhile_eq_nil_iff.mpr blank

theorem trim_of_blank (blank : Blank cs) : trim cs = [] := by
  rw [trim, trimStart_of_blank blank]
  rfl

theorem exists_eq_append_trimStart (cs : List Char) :
    ∃ front, Blank front ∧ cs = front ++ trimStart cs :=
  ⟨cs.takeWhile isBlank, fun _ member => List.mem_takeWhile_imp member,
    List.takeWhile_append_dropWhile.symm⟩

theorem exists_eq_trimEnd_append (cs : List Char) :
    ∃ back, Blank back ∧ cs = trimEnd cs ++ back := by
  obtain ⟨front, blank, split⟩ := exists_eq_append_trimStart cs.reverse
  refine ⟨front.reverse, fun c member => blank c (List.mem_reverse.mp member), ?_⟩
  have turned := congrArg List.reverse split
  rwa [List.reverse_reverse, List.reverse_append] at turned

/-- Trimming takes nothing but blanks away. -/
theorem exists_eq_padded_trim (cs : List Char) :
    ∃ front back, Blank front ∧ Blank back ∧ cs = front ++ trim cs ++ back := by
  obtain ⟨front, blankFront, first⟩ := exists_eq_append_trimStart cs
  obtain ⟨back, blankBack, second⟩ := exists_eq_trimEnd_append (trimStart cs)
  refine ⟨front, back, blankFront, blankBack, ?_⟩
  rw [List.append_assoc, trim, ← second]
  exact first

/-- A part without blanks is what is left when the blanks around it are trimmed. -/
theorem trim_padded (blankFront : Blank front) (solid : ∀ c ∈ core, isBlank c = false)
    (blankBack : Blank back) : trim (front ++ core ++ back) = core := by
  rw [List.append_assoc, trim, trimStart_append_of_blank blankFront]
  cases core with
  | nil => exact trim_of_blank blankBack
  | cons c rest =>
      have first := solid c List.mem_cons_self
      have stays : trimStart (c :: rest ++ back) = c :: rest ++ back := by simp [trimStart, first]
      have trimmed := trim_of_solid solid
      rw [trim, trimStart_of_solid solid] at trimmed
      rw [stays, trimEnd_append_of_blank blankBack, trimmed]

theorem padded_iff {form : List Char → Prop}
    (solid : ∀ core, form core → ∀ c ∈ core, isBlank c = false) :
    Padded form cs ↔ form (trim cs) := by
  constructor
  · rintro ⟨front, core, back, blankFront, isForm, blankBack, rfl⟩
    rwa [trim_padded blankFront (solid core isForm) blankBack]
  · intro isForm
    obtain ⟨front, back, blankFront, blankBack, split⟩ := exists_eq_padded_trim cs
    exact ⟨front, trim cs, back, blankFront, isForm, blankBack, split⟩

theorem trim_eq_nil_iff : trim cs = [] ↔ Blank cs := by
  constructor
  · intro nothing
    obtain ⟨front, back, blankFront, blankBack, split⟩ := exists_eq_padded_trim cs
    intro c member
    rw [split, nothing, List.append_nil] at member
    exact (List.mem_append.mp member).elim (blankFront c) (blankBack c)
  · exact trim_of_blank

/-! ## Cutting a trimmed text -/

theorem splitOnce_eq_some_iff :
    splitOnce mark cs = some (front, back) ↔ mark ∉ front ∧ cs = front ++ mark :: back := by
  constructor
  · intro splits
    induction cs generalizing front with
    | nil => contradiction
    | cons c rest ih =>
        rw [splitOnce] at splits
        split at splits
        · next same =>
            cases splits
            exact ⟨List.not_mem_nil, by rw [same, List.nil_append]⟩
        · next apart =>
            obtain ⟨⟨before, after⟩, later, same⟩ := Option.map_eq_some_iff.mp splits
            cases same
            obtain ⟨absent, rfl⟩ := ih later
            exact ⟨List.not_mem_cons_of_ne_of_not_mem (Ne.symm apart) absent, rfl⟩
  · rintro ⟨absent, rfl⟩
    exact splitOnce_append absent

theorem splitOnce_eq_none_iff : splitOnce mark cs = none ↔ mark ∉ cs := by
  constructor
  · intro whole member
    obtain ⟨front, back, rfl, absent⟩ := List.eq_append_cons_of_mem member
    rw [splitOnce_append absent] at whole
    contradiction
  · exact splitOnce_of_not_mem

theorem trimStart_append_cons (solid : isBlank mark = false) :
    trimStart (front ++ mark :: back) = trimStart front ++ mark :: back := by
  induction front with
  | nil => simp [trimStart, solid]
  | cons c rest ih =>
      by_cases blank : isBlank c
      · simpa [trimStart, blank] using ih
      · simp [trimStart, blank]

theorem trimEnd_append_cons (solid : isBlank mark = false) :
    trimEnd (front ++ mark :: back) = front ++ mark :: trimEnd back := by
  have turned : (front ++ mark :: back).reverse = back.reverse ++ mark :: front.reverse := by simp
  have dropped : trimStart (back.reverse ++ mark :: front.reverse) =
      trimStart back.reverse ++ mark :: front.reverse := trimStart_append_cons solid
  rw [trimStart] at dropped
  rw [trimEnd, turned, dropped]
  simp [trimEnd, trimStart]

/-- A text with a solid mark keeps it when it is trimmed. -/
theorem trim_append_cons (solid : isBlank mark = false) :
    trim (front ++ mark :: back) = trimStart front ++ mark :: trimEnd back := by
  rw [trim, trimStart_append_cons solid, trimEnd_append_cons solid]

theorem trimStart_append_of_not_blank (filled : ¬Blank cs) :
    trimStart (cs ++ back) = trimStart cs ++ back := by
  have stays : (cs.dropWhile isBlank).isEmpty = false := by
    rw [Bool.eq_false_iff, ne_eq, List.isEmpty_iff]
    exact mt List.dropWhile_eq_nil_iff.mp filled
  rw [trimStart, List.dropWhile_append, stays]
  rfl

theorem trim_append_of_blank (blank : Blank back) : trim (cs ++ back) = trim cs := by
  by_cases nothing : Blank cs
  · rw [trim_of_blank nothing, trim, trimStart_append_of_blank nothing]
    exact trim_of_blank blank
  · rw [trim, trimStart_append_of_not_blank nothing, trimEnd_append_of_blank blank, trim]

theorem trim_trimStart (cs : List Char) : trim (trimStart cs) = trim cs := by
  obtain ⟨front, blank, split⟩ := exists_eq_append_trimStart cs
  conv_rhs => rw [split, trim, trimStart_append_of_blank blank]
  rfl

theorem trim_trimEnd (cs : List Char) : trim (trimEnd cs) = trim cs := by
  obtain ⟨back, blank, split⟩ := exists_eq_trimEnd_append cs
  conv_rhs => rw [split, trim_append_of_blank blank]

theorem trim_trim (cs : List Char) : trim (trim cs) = trim cs := by
  conv_lhs => rw [trim.eq_def cs, trim_trimEnd, trim_trimStart]

theorem splitOnce_trim (solid : isBlank mark = false) (cs : List Char) :
    splitOnce mark (trim cs) =
      (splitOnce mark cs).map fun parts => (trimStart parts.1, trimEnd parts.2) := by
  cases splits : splitOnce mark cs with
  | none =>
      have absent := splitOnce_eq_none_iff.mp splits
      obtain ⟨front, back, -, -, split⟩ := exists_eq_padded_trim cs
      rw [split, List.mem_append, List.mem_append, not_or, not_or] at absent
      exact splitOnce_of_not_mem absent.1.2
  | some parts =>
      obtain ⟨absent, rfl⟩ := splitOnce_eq_some_iff.mp splits
      have within : mark ∉ trimStart parts.1 := mt (List.dropWhile_sublist _).mem absent
      rw [trim_append_cons solid, splitOnce_append within]
      rfl

theorem not_mem_of_padded {form : List Char → Prop} (solid : isBlank mark = false)
    (absent : ∀ core, form core → mark ∉ core) (padded : Padded form cs) : mark ∉ cs := by
  obtain ⟨front, core, back, blankFront, isForm, blankBack, rfl⟩ := padded
  rw [List.mem_append, List.mem_append]
  rintro ((inside | inside) | inside)
  · exact Bool.eq_false_iff.mp solid (blankFront mark inside)
  · exact absent core isForm inside
  · exact Bool.eq_false_iff.mp solid (blankBack mark inside)

/-! ## Lists of pieces -/

section Lists

variable {α β ε : Type} {read : α → Except ε β} {pieces : List α}

theorem bind_eq_ok_iff {γ : Type} {first : Except ε α} {next : α → Except ε γ} {value : γ} :
    first >>= next = .ok value ↔ ∃ middle, first = .ok middle ∧ next middle = .ok value := by
  constructor
  · exact exists_of_bind_eq_ok
  · rintro ⟨middle, rfl, ends⟩
    exact ends

theorem toOption_eq_some_iff {outcome : Except ε α} {value : α} :
    outcome.toOption = some value ↔ outcome = .ok value := by
  cases outcome with
  | error fault => simp [Except.toOption]
  | ok other => simp [Except.toOption]

/-- Reading piece by piece yields a value for every piece. -/
theorem mapM_eq_ok_iff {values : List β} :
    pieces.mapM read = .ok values ↔
      List.Forall₂ (fun piece value => read piece = .ok value) pieces values := by
  induction pieces generalizing values with
  | nil =>
      rw [List.mapM_nil, List.forall₂_nil_left_iff]
      exact ⟨fun same => (Except.ok.inj same).symm, fun same => congrArg Except.ok same.symm⟩
  | cons piece rest ih =>
      rw [List.mapM_cons, bind_eq_ok_iff]
      constructor
      · rintro ⟨value, first, reads⟩
        obtain ⟨later, others, same⟩ := bind_eq_ok_iff.mp reads
        cases same
        exact .cons first (ih.mp others)
      · rintro (_ | ⟨first, others⟩)
        exact ⟨_, first, bind_eq_ok_iff.mpr ⟨_, ih.mpr others, rfl⟩⟩

theorem bind_eq_error_iff {γ : Type} {first : Except ε α} {next : α → Except ε γ} {fault : ε} :
    first >>= next = .error fault ↔
      first = .error fault ∨ ∃ middle, first = .ok middle ∧ next middle = .error fault := by
  cases first with
  | error reason =>
      constructor
      · intro same
        cases same
        exact Or.inl rfl
      · rintro (same | ⟨middle, impossible, -⟩)
        · cases same
          rfl
        · contradiction
  | ok middle =>
      constructor
      · intro refuses
        exact Or.inr ⟨middle, rfl, refuses⟩
      · rintro (impossible | ⟨_, same, refuses⟩)
        · contradiction
        · cases same
          exact refuses

/-- Reading piece by piece ends with the fault of the first piece that cannot be read. -/
theorem mapM_eq_error_iff {fault : ε} :
    pieces.mapM read = .error fault ↔
      ∃ front piece back, pieces = front ++ piece :: back ∧
        (∀ earlier ∈ front, ∃ value, read earlier = .ok value) ∧ read piece = .error fault := by
  induction pieces with
  | nil =>
      constructor
      · intro impossible
        contradiction
      · rintro ⟨front, piece, back, impossible, -⟩
        simp at impossible
  | cons piece rest ih =>
      rw [List.mapM_cons, bind_eq_error_iff]
      constructor
      · rintro (refuses | ⟨value, first, refuses⟩)
        · exact ⟨[], piece, rest, rfl, by simp, refuses⟩
        · rcases bind_eq_error_iff.mp refuses with refuses | ⟨_, -, impossible⟩
          · obtain ⟨front, refused, back, rfl, earlier, refuses⟩ := ih.mp refuses
            exact ⟨piece :: front, refused, back, rfl,
              List.forall_mem_cons.mpr ⟨⟨value, first⟩, earlier⟩, refuses⟩
          · contradiction
      · rintro ⟨front, refused, back, split, earlier, refuses⟩
        cases front with
        | nil =>
            cases split
            exact Or.inl refuses
        | cons other front =>
            cases split
            obtain ⟨⟨value, first⟩, others⟩ := List.forall_mem_cons.mp earlier
            have later := ih.mpr ⟨front, refused, back, rfl, others, refuses⟩
            exact Or.inr ⟨value, first, bind_eq_error_iff.mpr (Or.inl later)⟩

theorem exists_of_forall₂ {stands : α → β → Prop} {values : List β}
    (each : List.Forall₂ stands pieces values) : ∀ value ∈ values, ∃ piece, stands piece value := by
  induction each with
  | nil => simp
  | cons here _ ih => exact List.forall_mem_cons.mpr ⟨⟨_, here⟩, ih⟩

theorem forall₂_iff_of_mem {first second : α → β → Prop} {values : List β}
    (same : ∀ piece ∈ pieces, ∀ value, first piece value ↔ second piece value) :
    List.Forall₂ first pieces values ↔ List.Forall₂ second pieces values := by
  induction pieces generalizing values with
  | nil => rw [List.forall₂_nil_left_iff, List.forall₂_nil_left_iff]
  | cons piece rest ih =>
      obtain ⟨here, later⟩ := List.forall_mem_cons.mp same
      cases values with
      | nil => simp
      | cons value values => rw [List.forall₂_cons, List.forall₂_cons, here value, ih later]

theorem exists_forall₂_iff {stands : α → β → Prop} :
    (∃ values, List.Forall₂ stands pieces values) ↔
      ∀ piece ∈ pieces, ∃ value, stands piece value := by
  induction pieces with
  | nil => simp
  | cons piece rest ih =>
      rw [List.forall_mem_cons, ← ih]
      constructor
      · rintro ⟨_, _ | ⟨here, later⟩⟩
        exact ⟨⟨_, here⟩, _, later⟩
      · rintro ⟨⟨value, here⟩, values, later⟩
        exact ⟨value :: values, .cons here later⟩

end Lists

/-! ## Readers of lists -/

/-- What separates the pieces of a list. -/
def isSeparator (c : Char) : Bool :=
  c == ';' || c == ','

/-- The pieces of a list that are not blank, with the blanks around them. -/
def piecesIn (text : String) : List (List Char) :=
  (text.toList.splitOnP isSeparator).filter fun piece => ¬Blank piece

section Readers

variable {α : Type} {stands : List Char → α → Prop} {readOne : String → Except ParseError α}
  {parse : String → Except ParseError (List α)} {read : List Char → Except ParseError α}
  {text : String}

/-- Whether a reader of lists goes by a grammar of pieces. -/
structure GoesBy (stands : List Char → α → Prop) (readOne : String → Except ParseError α)
    (parse : String → Except ParseError (List α)) (text : String) : Prop where
  accepts_iff : (∃ values, parse text = .ok values) ↔
    ∀ piece ∈ piecesIn text, ∃ value, stands piece value
  /-- what is read has one value for each piece, in their order -/
  values_iff : ∀ values, parse text = .ok values ↔ List.Forall₂ stands (piecesIn text) values
  /-- what is reported is wrong with the first piece that the grammar does not know -/
  refuses_iff : ∀ fault, parse text = .error fault ↔
    ∃ front piece back, piecesIn text = front ++ piece :: back ∧
      (∀ earlier ∈ front, ∃ value, stands earlier value) ∧ (¬∃ value, stands piece value) ∧
      readOne (String.ofList piece) = .error fault

/-- The trimmed pieces that are not empty are those of the pieces that are not blank. -/
theorem filter_map_trim (pieces : List (List Char)) :
    (pieces.map trim).filter (fun piece => !piece.isEmpty) =
      (pieces.filter fun piece => ¬Blank piece).map trim := by
  rw [List.filter_map]
  refine congrArg (List.map trim) (List.filter_congr ?_)
  intro piece _
  rw [Function.comp_apply, Bool.eq_iff_iff, Bool.not_eq_true', Bool.eq_false_iff, ne_eq,
    List.isEmpty_iff, trim_eq_nil_iff, decide_eq_true_iff]

theorem not_blank_of_mem_piecesIn {piece : List Char} (member : piece ∈ piecesIn text) :
    ¬Blank piece :=
  of_decide_eq_true (List.mem_filter.mp member).2

theorem not_blank_of_piecesIn_eq {front back : List (List Char)} {piece : List Char}
    (split : piecesIn text = front ++ piece :: back) :
    (∀ earlier ∈ front, ¬Blank earlier) ∧ ¬Blank piece := by
  have filled : ∀ piece ∈ piecesIn text, ¬Blank piece := fun _ => not_blank_of_mem_piecesIn
  rw [split, List.forall_mem_append, List.forall_mem_cons] at filled
  exact ⟨filled.1, filled.2.1⟩

/-- A reader of pieces that knows a grammar makes a reader of lists that goes by it. -/
theorem goesBy_of_read (parses : parse text = ((piecesIn text).map trim).mapM read)
    (reads : ∀ piece, ¬Blank piece → ∀ value, read (trim piece) = .ok value ↔ stands piece value)
    (alone : ∀ piece, ¬Blank piece → readOne (String.ofList piece) = read (trim piece)) :
    GoesBy stands readOne parse text := by
  rw [List.mapM_map] at parses
  have values_iff : ∀ values,
      parse text = .ok values ↔ List.Forall₂ stands (piecesIn text) values := by
    intro values
    rw [parses, mapM_eq_ok_iff]
    exact forall₂_iff_of_mem fun piece member => reads piece (not_blank_of_mem_piecesIn member)
  refine ⟨?_, values_iff, ?_⟩
  · rw [exists_congr values_iff, exists_forall₂_iff]
  · intro fault
    rw [parses, mapM_eq_error_iff]
    refine exists_congr fun front => exists_congr fun piece => exists_congr fun back =>
      and_congr_right fun split => ?_
    obtain ⟨before, here⟩ := not_blank_of_piecesIn_eq split
    rw [alone piece here]
    constructor
    · rintro ⟨earlier, refuses⟩
      refine ⟨fun other member => ?_, ?_, refuses⟩
      · obtain ⟨value, isRead⟩ := earlier other member
        exact ⟨value, (reads other (before other member) value).mp isRead⟩
      · rintro ⟨value, known⟩
        cases refuses.symm.trans ((reads piece here value).mpr known)
    · rintro ⟨earlier, -, refuses⟩
      refine ⟨fun other member => ?_, refuses⟩
      obtain ⟨value, known⟩ := earlier other member
      exact ⟨value, (reads other (before other member) value).mpr known⟩

end Readers

end FieldSurvey.Text
