/-!
# Sets and tables of texts

A set of texts is a list in ascending order, by code points and without
repetition, so that equal sets are equal lists.  A table maps texts to texts
and is ordered by key in the same way.
-/

namespace FieldSurvey.Text

/-- A set of texts. -/
structure TextSet where
  items : List String
  ascending : items.Pairwise (· < ·)
  deriving DecidableEq

namespace TextSet

/-- Inserts a text into an ascending list that may hold it already. -/
def insertInto (text : String) : List String → List String
  | [] => [text]
  | first :: rest =>
    if text < first then text :: first :: rest
    else if text = first then first :: rest
    else first :: insertInto text rest

theorem mem_insertInto {a text : String} {items : List String} :
    a ∈ insertInto text items ↔ a = text ∨ a ∈ items := by
  induction items with
  | nil => simp [insertInto]
  | cons first rest ih =>
      unfold insertInto
      split
      · simp
      · split
        · rename_i h
          subst h
          simp
        · simp only [List.mem_cons, ih]
          constructor
          · rintro (h | h | h) <;> simp [h]
          · rintro (h | h | h) <;> simp [h]

theorem lt_of_not_lt_of_ne {a b : String} (hlt : ¬a < b) (hne : ¬a = b) : b < a := by
  by_cases h : b < a
  · exact h
  · exact absurd (String.le_antisymm (String.not_lt.mp h) (String.not_lt.mp hlt)) hne

theorem insertInto_ascending (text : String) {items : List String}
    (h : items.Pairwise (· < ·)) : (insertInto text items).Pairwise (· < ·) := by
  induction items with
  | nil => simp [insertInto]
  | cons first rest ih =>
      obtain ⟨hfirst, hrest⟩ := List.pairwise_cons.mp h
      unfold insertInto
      split
      · rename_i hlt
        refine List.pairwise_cons.mpr ⟨?_, h⟩
        intro b hb
        rcases List.mem_cons.mp hb with rfl | hb
        · exact hlt
        · exact String.lt_trans hlt (hfirst b hb)
      · split
        · exact h
        · rename_i hnlt hne
          refine List.pairwise_cons.mpr ⟨?_, ih hrest⟩
          intro b hb
          rcases mem_insertInto.mp hb with rfl | hb
          · exact lt_of_not_lt_of_ne hnlt hne
          · exact hfirst b hb

/-- The empty set. -/
def empty : TextSet :=
  ⟨[], List.Pairwise.nil⟩

instance : Inhabited TextSet := ⟨empty⟩

/-- Adds a text. -/
def insert (set : TextSet) (text : String) : TextSet :=
  ⟨insertInto text set.items, insertInto_ascending text set.ascending⟩

/-- The set of the texts in a list. -/
def ofList (texts : List String) : TextSet :=
  texts.foldl insert empty

/-- The set of one text. -/
def single (text : String) : TextSet :=
  empty.insert text

/-- The texts of both sets. -/
def union (a b : TextSet) : TextSet :=
  b.items.foldl insert a

end TextSet

/-- A table from texts to texts. -/
structure TextTable where
  entries : List (String × String)
  ascending : (entries.map Prod.fst).Pairwise (· < ·)
  deriving DecidableEq

namespace TextTable

/-- Inserts an entry into a list with ascending keys, replacing the value of a
key that occurs already. -/
def insertInto (key value : String) : List (String × String) → List (String × String)
  | [] => [(key, value)]
  | first :: rest =>
    if key < first.1 then (key, value) :: first :: rest
    else if key = first.1 then (key, value) :: rest
    else first :: insertInto key value rest

theorem keys_insertInto (key value : String) (entries : List (String × String)) :
    (insertInto key value entries).map Prod.fst =
      TextSet.insertInto key (entries.map Prod.fst) := by
  induction entries with
  | nil => rfl
  | cons first rest ih =>
      simp only [insertInto, List.map_cons, TextSet.insertInto]
      split
      · rfl
      · split
        · rename_i h
          simp [h]
        · simp [ih]

/-- The table without entries. -/
def empty : TextTable :=
  ⟨[], List.Pairwise.nil⟩

instance : Inhabited TextTable := ⟨empty⟩

/-- Sets the value of a key. -/
def insert (table : TextTable) (key value : String) : TextTable :=
  ⟨insertInto key value table.entries, by
    rw [keys_insertInto]
    exact TextSet.insertInto_ascending key table.ascending⟩

/-- The table of a list of entries; of several values of a key the last one
counts. -/
def ofList (entries : List (String × String)) : TextTable :=
  entries.foldl (fun table (key, value) => table.insert key value) empty

/-- Whether there is no entry. -/
def isEmpty (table : TextTable) : Bool :=
  table.entries.isEmpty

end TextTable

end FieldSurvey.Text
