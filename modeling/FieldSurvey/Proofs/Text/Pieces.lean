import FieldSurvey.ParseError
import FieldSurvey.Text.Basic

/-!
# Pieces of texts

A text that has no blanks is its own trimmed form, and a text is cut again where it was put
together if its parts do not contain what separates them.
-/

namespace FieldSurvey.Text

variable {mark : Char} {cs front back : List Char}

/-! ## Trimming -/

theorem trimStart_of_solid (solid : ∀ c ∈ cs, isBlank c = false) : trimStart cs = cs := by
  cases cs with
  | nil => rfl
  | cons c rest =>
      have first := solid c List.mem_cons_self
      simp [trimStart, first]

theorem trim_of_solid (solid : ∀ c ∈ cs, isBlank c = false) : trim cs = cs := by
  have reversed : trimStart cs.reverse = cs.reverse :=
    trimStart_of_solid fun c member => solid c (List.mem_reverse.mp member)
  rw [trim, trimStart_of_solid solid, trimEnd]
  exact (congrArg List.reverse reversed).trans (List.reverse_reverse cs)

/-! ## Cutting at a mark -/

theorem splitOnce_of_not_mem (absent : mark ∉ cs) : splitOnce mark cs = none := by
  induction cs with
  | nil => rfl
  | cons c rest ih =>
      obtain ⟨apart, later⟩ := not_or.mp (mt List.mem_cons.mpr absent)
      rw [splitOnce, if_neg (Ne.symm apart), ih later]
      rfl

theorem splitOnce_append (absent : mark ∉ front) :
    splitOnce mark (front ++ mark :: back) = some (front, back) := by
  induction front with
  | nil => simp [splitOnce]
  | cons c rest ih =>
      obtain ⟨apart, later⟩ := not_or.mp (mt List.mem_cons.mpr absent)
      rw [List.cons_append, splitOnce, if_neg (Ne.symm apart), ih later]
      rfl

/-! ## Lists of pieces -/

theorem splitOnP_intercalate {isMark : Char → Bool} (marks : isMark mark)
    {pieces : List (List Char)} (nonempty : pieces ≠ [])
    (solid : ∀ piece ∈ pieces, ∀ c ∈ piece, isMark c = false) :
    ([mark].intercalate pieces).splitOnP isMark = pieces := by
  induction pieces with
  | nil => contradiction
  | cons piece rest ih =>
      obtain ⟨first, others⟩ := List.forall_mem_cons.mp solid
      cases rest with
      | nil => rw [List.intercalate_singleton, List.splitOnP_eq_singleton first]
      | cons next later =>
          rw [List.intercalate_cons_cons, List.append_assoc, List.singleton_append,
            List.splitOnP_append_cons_of_forall_mem first mark marks,
            ih (List.cons_ne_nil _ _) others]

/-- Pieces without marks and blanks, none of which is empty, are the pieces of their list. -/
theorem pieces_intercalate {isMark : Char → Bool} (marks : isMark mark)
    {pieces : List (List Char)} (nonempty : ∀ piece ∈ pieces, piece ≠ [])
    (solid : ∀ piece ∈ pieces, ∀ c ∈ piece, isMark c = false ∧ isBlank c = false) :
    ((([mark].intercalate pieces).splitOnP isMark).map trim).filter (fun piece => !piece.isEmpty) =
      pieces := by
  rcases Decidable.em (pieces = []) with empty | filled
  · rw [empty, List.intercalate_nil, List.splitOnP_nil]
    rfl
  · have trimmed : pieces.map trim = pieces :=
      (List.map_congr_left fun piece member =>
        trim_of_solid fun c inside => (solid piece member c inside).2).trans (List.map_id _)
    rw [splitOnP_intercalate marks filled fun piece member c inside =>
      (solid piece member c inside).1, trimmed, List.filter_eq_self]
    intro piece member
    simpa using nonempty piece member

theorem mem_intercalate {pieces : List (List Char)} {c : Char}
    (member : c ∈ [mark].intercalate pieces) : c = mark ∨ ∃ piece ∈ pieces, c ∈ piece := by
  induction pieces with
  | nil => contradiction
  | cons piece rest ih =>
      cases rest with
      | nil =>
          rw [List.intercalate_singleton] at member
          exact Or.inr ⟨piece, List.mem_singleton_self _, member⟩
      | cons next later =>
          rw [List.intercalate_cons_cons, List.mem_append, List.mem_append,
            List.mem_singleton] at member
          rcases member with (here | isMark) | further
          · exact Or.inr ⟨piece, List.mem_cons_self, here⟩
          · exact Or.inl isMark
          · rcases ih further with isMark | ⟨source, inRest, inside⟩
            · exact Or.inl isMark
            · exact Or.inr ⟨source, List.mem_cons_of_mem _ inRest, inside⟩

/-- What is read piece by piece from what was written piece by piece. -/
theorem mapM_map_eq_ok {α β γ ε : Type} {write : α → β} {read : β → Except ε γ} {kept : α → γ}
    {values : List α} (each : ∀ value ∈ values, read (write value) = .ok (kept value)) :
    (values.map write).mapM read = .ok (values.map kept) := by
  induction values with
  | nil => rfl
  | cons value rest ih =>
      obtain ⟨first, others⟩ := List.forall_mem_cons.mp each
      rw [List.map_cons, List.mapM_cons, first, ih others]
      rfl

theorem exists_of_bind_eq_ok {α β ε : Type} {first : Except ε α} {next : α → Except ε β}
    {value : β} (ends : first >>= next = .ok value) :
    ∃ middle, first = .ok middle ∧ next middle = .ok value := by
  cases first with
  | error fault => contradiction
  | ok middle => exact ⟨middle, rfl, ends⟩

/-- Every value was read from some piece. -/
theorem exists_of_mapM_eq_ok {β γ ε : Type} {read : β → Except ε γ} {pieces : List β}
    {values : List γ} (reads : pieces.mapM read = .ok values) :
    ∀ value ∈ values, ∃ piece ∈ pieces, read piece = .ok value := by
  induction pieces generalizing values with
  | nil =>
      cases reads
      simp
  | cons piece rest ih =>
      rw [List.mapM_cons] at reads
      obtain ⟨head, first, reads⟩ := exists_of_bind_eq_ok reads
      obtain ⟨others, later, reads⟩ := exists_of_bind_eq_ok reads
      cases reads
      refine List.forall_mem_cons.mpr ⟨⟨piece, List.mem_cons_self, first⟩, ?_⟩
      intro value member
      obtain ⟨source, inRest, same⟩ := ih later value member
      exact ⟨source, List.mem_cons_of_mem _ inRest, same⟩

end FieldSurvey.Text
