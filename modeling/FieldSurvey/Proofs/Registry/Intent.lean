import FieldSurvey.Proofs.Registry.Store

/-!
# Intents

An intent says for every id what is to be written there, given what stands there,
or that it is to stay as it is.  What a sequence of calls does to a store is said by
an intent that the store fulfils, up to the generations of what was written.
Intents that do not meddle with each other combine.
-/

namespace FieldSurvey.Registry

/-- The first entity of an id in a list. -/
def firstOf {α : Type} [Entity α] (entities : List α) (id : String) : Option α :=
  entities.find? fun entity => Entity.id entity = id

theorem firstOf_eq_none_iff {α : Type} [Entity α] {entities : List α} {id : String} :
    firstOf entities id = none ↔ id ∉ entities.map Entity.id := by
  simp [firstOf]

theorem mem_ids_of_firstOf {α : Type} [Entity α] {entities : List α} {id : String} {entity : α}
    (found : firstOf entities id = some entity) : id ∈ entities.map Entity.id := by
  by_contra absent
  rw [firstOf_eq_none_iff.mpr absent] at found
  contradiction

/-- What is to be written under an id, given what stands there.  Nothing means that
it stays as it is. -/
abbrev Intent (α : Type) :=
  String → Option α → Option α

namespace Intent

variable {α : Type}

/-- Leaves everything as it is. -/
def idle : Intent α :=
  fun _ _ => none

/-- Concerns a single id. -/
def only (id : String) (write : Option α → Option α) : Intent α :=
  fun other present => if other = id then write present else none

/-- The first intent, and the second one where the first has nothing to write. -/
def orElse (first second : Intent α) : Intent α :=
  fun id present => (first id present).or (second id present)

/-- Concerns the ids of some entities, each in its own way. -/
def each [Entity α] (write : α → Option α → Option α) (entities : List α) : Intent α :=
  fun id present => (firstOf entities id).bind fun entity => write entity present

/-- Changes what stands under some ids. -/
def among (ids : List String) (change : α → Option α) : Intent α :=
  fun id present => if id ∈ ids then present.bind change else none

theorem only_eq_none {id other : String} (apart : other ≠ id) (write : Option α → Option α)
    (present : Option α) : only id write other present = none :=
  if_neg apart

theorem each_eq_none [Entity α] {entities : List α} {id : String}
    (absent : id ∉ entities.map Entity.id) (write : α → Option α → Option α)
    (present : Option α) : each write entities id present = none := by
  simp [each, firstOf_eq_none_iff.mpr absent]

theorem each_cons [Entity α] {first : α} {rest : List α}
    (fresh : Entity.id first ∉ rest.map Entity.id) (write : α → Option α → Option α) :
    each write (first :: rest) =
      (only (Entity.id first) (write first)).orElse (each write rest) := by
  funext id present
  unfold orElse only
  by_cases same : id = Entity.id first
  · subst same
    rw [if_pos rfl, each_eq_none fresh]
    simp [each, firstOf]
  · have apart : Entity.id first ≠ id := fun equal => same equal.symm
    simp [each, firstOf, same, apart]

theorem each_append [Entity α] (write : α → Option α → Option α) {front back : List α}
    (apart : ∀ id ∈ front.map Entity.id, id ∉ back.map Entity.id) :
    each write (front ++ back) = (each write front).orElse (each write back) := by
  funext id present
  unfold orElse
  cases inFront : firstOf front id with
  | none =>
      have missing : front.find? (fun entity => Entity.id entity = id) = none := inFront
      simp [each, firstOf, List.find?_append, missing]
  | some entity =>
      have found : front.find? (fun entity => Entity.id entity = id) = some entity := inFront
      rw [each_eq_none (apart id (mem_ids_of_firstOf inFront))]
      simp [each, firstOf, List.find?_append, found]

theorem among_cons {first : String} {rest : List String} (fresh : first ∉ rest)
    (change : α → Option α) :
    among (first :: rest) change =
      (only first fun present => present.bind change).orElse (among rest change) := by
  funext id present
  unfold orElse only among
  by_cases same : id = first
  · subst same
    simp [fresh]
  · simp [same]

end Intent

namespace Store

variable {α : Type} [Entity α]

/-- A store after an intent was carried out on it. -/
def Becomes (before : Store α) (intent : Intent α) (after : Store α) : Prop :=
  ∀ id,
    match intent id (before.get? id) with
    | none => after.get? id = before.get? id
    | some entity =>
      ∃ generation, after.get? id = some (Entity.inGeneration (some generation) entity)

namespace Becomes

variable {before middle after : Store α} {intent first second : Intent α}

theorem kept (becomes : before.Becomes intent after) {id : String}
    (untouched : intent id (before.get? id) = none) : after.get? id = before.get? id := by
  have here := becomes id
  rw [untouched] at here
  exact here

theorem written (becomes : before.Becomes intent after) {id : String} {entity : α}
    (intended : intent id (before.get? id) = some entity) :
    ∃ generation, after.get? id = some (Entity.inGeneration (some generation) entity) := by
  have here := becomes id
  rw [intended] at here
  exact here

theorem refl (store : Store α) : store.Becomes Intent.idle store :=
  fun _ => rfl

theorem congr (becomes : before.Becomes first after)
    (same : ∀ id, first id (before.get? id) = second id (before.get? id)) :
    before.Becomes second after := by
  intro id
  rw [← same id]
  exact becomes id

/-- Two intents combine if the second one leaves alone what the first one writes. -/
theorem trans (firstStep : before.Becomes first middle) (secondStep : middle.Becomes second after)
    (apart : ∀ id, first id (before.get? id) = none ∨ ∀ present, second id present = none) :
    before.Becomes (first.orElse second) after := by
  intro id
  unfold Intent.orElse
  cases intended : first id (before.get? id) with
  | none =>
      have same := firstStep.kept intended
      have here := secondStep id
      rw [same] at here
      exact here
  | some entity =>
      have silent : ∀ present, second id present = none := by
        rcases apart id with none | silent
        · rw [intended] at none
          contradiction
        · exact silent
      obtain ⟨generation, stored⟩ := firstStep.written intended
      exact ⟨generation, (secondStep.kept (silent _)).trans stored⟩

/-- Entities that are written one after the other under other ids. -/
theorem each_cons {write : α → Option α → Option α} {entity : α} {rest : List α}
    (firstStep : before.Becomes (Intent.only (Entity.id entity) (write entity)) middle)
    (secondStep : middle.Becomes (Intent.each write rest) after)
    (fresh : Entity.id entity ∉ rest.map Entity.id) :
    before.Becomes (Intent.each write (entity :: rest)) after := by
  rw [Intent.each_cons fresh]
  apply firstStep.trans secondStep
  intro id
  by_cases same : id = Entity.id entity
  · right
    exact Intent.each_eq_none (same ▸ fresh) write
  · left
    exact Intent.only_eq_none same _ _

theorem each_append {write : α → Option α → Option α} {front back : List α}
    (firstStep : before.Becomes (Intent.each write front) middle)
    (secondStep : middle.Becomes (Intent.each write back) after)
    (apart : ∀ id ∈ front.map Entity.id, id ∉ back.map Entity.id) :
    before.Becomes (Intent.each write (front ++ back)) after := by
  rw [Intent.each_append write apart]
  apply firstStep.trans secondStep
  intro id
  by_cases member : id ∈ front.map Entity.id
  · right
    exact Intent.each_eq_none (apart id member) write
  · left
    exact Intent.each_eq_none member _ _

end Becomes

theorem becomes_write [LawfulEntity α] (supply : Nat → String) (store : Store α) (entity : α) :
    store.Becomes (Intent.only (Entity.id entity) fun _ => some entity)
      (store.write supply entity).2 := by
  intro id
  unfold Intent.only
  by_cases same : id = Entity.id entity
  · rw [if_pos same]
    exact ⟨_, by rw [get?_write, if_pos same.symm, write_fst]⟩
  · rw [if_neg same]
    change Store.get? _ _ = _
    rw [get?_write, if_neg (Ne.symm same)]

/-- A revision carries out its change, if there is something to change. -/
theorem becomes_revised [LawfulEntity α] {supply : Nat → String} {store : Store α}
    (kept : store.WellKept) (id : String) {change : α → Option α} (keeps : KeepsIdentity change) :
    store.Becomes (Intent.only id fun present => present.bind change)
      (store.revised supply id change).2 := by
  unfold revised
  cases found : store.get? id with
  | none =>
      apply (Becomes.refl store).congr
      intro other
      by_cases same : other = id <;> simp [Intent.idle, Intent.only, same, found]
  | some current =>
      simp only
      cases changed : change current with
      | none =>
          apply (Becomes.refl store).congr
          intro other
          by_cases same : other = id <;> simp [Intent.idle, Intent.only, same, found, changed]
      | some entity =>
          have sameId : Entity.id entity = id :=
            (keeps changed).1.trans (kept.id_of_get? found)
          apply (becomes_write supply store entity).congr
          intro other
          by_cases same : other = id <;> simp [Intent.only, same, sameId, found, changed]

theorem WellKept.revised [LawfulEntity α] {supply : Nat → String} {store : Store α}
    (kept : store.WellKept) (id : String) (change : α → Option α) :
    (store.revised supply id change).2.WellKept := by
  unfold Store.revised
  split
  · exact kept
  · split
    · exact kept
    · exact kept.write supply _

theorem get?_revised_of_ne [LawfulEntity α] {supply : Nat → String} {store : Store α}
    (kept : store.WellKept) {id other : String} (apart : other ≠ id) {change : α → Option α}
    (keeps : KeepsIdentity change) :
    (store.revised supply id change).2.get? other = store.get? other :=
  (becomes_revised kept id keeps).kept (Intent.only_eq_none apart _ _)

/-- A store after the revision of several ids. -/
def revisedAll (supply : Nat → String) (change : α → Option α) (ids : List String)
    (store : Store α) : Store α :=
  ids.foldl (fun store id => (store.revised supply id change).2) store

/-- The ids of a list that a change makes a difference to. -/
def affected (change : α → Option α) (ids : List String) (store : Store α) : Nat :=
  ids.countP fun id => ((store.get? id).bind change).isSome

theorem WellKept.revisedAll [LawfulEntity α] {supply : Nat → String} {store : Store α}
    (kept : store.WellKept) (change : α → Option α) (ids : List String) :
    (store.revisedAll supply change ids).WellKept := by
  induction ids generalizing store with
  | nil => exact kept
  | cons first rest ih => exact ih (kept.revised first change)

theorem becomes_revisedAll [LawfulEntity α] (supply : Nat → String) {store : Store α}
    (kept : store.WellKept) {change : α → Option α} (keeps : KeepsIdentity change)
    {ids : List String} (nodup : ids.Nodup) :
    store.Becomes (Intent.among ids change) (store.revisedAll supply change ids) := by
  induction ids generalizing store with
  | nil => exact (Becomes.refl store).congr fun id => by simp [Intent.idle, Intent.among]
  | cons first rest ih =>
      rw [List.nodup_cons] at nodup
      rw [Intent.among_cons nodup.1]
      apply (becomes_revised kept first keeps).trans (ih (kept.revised first change) nodup.2)
      intro id
      by_cases same : id = first
      · exact Or.inr fun present => if_neg (same ▸ nodup.1)
      · exact Or.inl (Intent.only_eq_none same _ _)

theorem affected_cons [LawfulEntity α] (supply : Nat → String) {store : Store α}
    (kept : store.WellKept) {change : α → Option α} (keeps : KeepsIdentity change)
    {first : String} {rest : List String} (fresh : first ∉ rest) :
    store.affected change (first :: rest) =
      (if ((store.get? first).bind change).isSome then 1 else 0) +
        (store.revised supply first change).2.affected change rest := by
  unfold affected
  rw [List.countP_cons, Nat.add_comm]
  congr 1
  apply List.countP_congr
  intro id member
  have apart : id ≠ first := fun same => fresh (same ▸ member)
  rw [get?_revised_of_ne kept apart keeps]

/-- Whether a discoverer may write under an id: nothing stands there, or something of
its own. -/
def IsOpen (discovererId : String) : Option α → Bool
  | none => true
  | some stored => Entity.discovererId stored == some discovererId

@[simp]
theorem isOpen_none (discovererId : String) : IsOpen discovererId (none : Option α) = true :=
  rfl

@[simp]
theorem isOpen_some (discovererId : String) (stored : α) :
    IsOpen discovererId (some stored) = (Entity.discovererId stored == some discovererId) :=
  rfl

/-- Adds an entity where there is none, and revises the one of the discoverer. -/
def upsert (discovererId : String) (entity : α) (revise : α → Option α) :
    Option α → Option α
  | none => some entity
  | some stored =>
    if Entity.discovererId stored = some discovererId then revise stored else none

/-- A store after an entity was added under an id, or the one of the discoverer revised. -/
def upserted (supply : Nat → String) (discovererId : String) (entity : α)
    (revise : α → Option α) (id : String) (store : Store α) : Store α :=
  match store.get? id with
  | none => (store.write supply entity).2
  | some stored =>
    if Entity.discovererId stored = some discovererId then (store.revised supply id revise).2
    else store

theorem WellKept.upserted [LawfulEntity α] {store : Store α} (kept : store.WellKept)
    (supply : Nat → String) (discovererId : String) (entity : α) (revise : α → Option α)
    (id : String) : (store.upserted supply discovererId entity revise id).WellKept := by
  unfold Store.upserted
  split
  · exact kept.write supply entity
  · split
    · exact kept.revised id revise
    · exact kept

theorem becomes_upserted [LawfulEntity α] (supply : Nat → String) {store : Store α}
    (kept : store.WellKept) (discovererId : String) {entity : α} {revise : α → Option α}
    (keeps : KeepsIdentity revise) (id : String) (sameId : Entity.id entity = id) :
    store.Becomes (Intent.only id (upsert discovererId entity revise))
      (store.upserted supply discovererId entity revise id) := by
  unfold upserted
  cases found : store.get? id with
  | none =>
      apply (becomes_write supply store entity).congr
      intro other
      by_cases same : other = id
      · simp [Intent.only, sameId, same, found, upsert]
      · simp [Intent.only, sameId, same]
  | some stored =>
      simp only
      split
      · rename_i owned
        apply (becomes_revised kept id keeps).congr
        intro other
        by_cases same : other = id
        · simp [Intent.only, same, found, upsert, owned]
        · simp [Intent.only, same]
      · rename_i foreign
        apply (Becomes.refl store).congr
        intro other
        by_cases same : other = id
        · simp [Intent.only, Intent.idle, same, found, upsert, foreign]
        · simp [Intent.only, Intent.idle, same]

end Store

end FieldSurvey.Registry
