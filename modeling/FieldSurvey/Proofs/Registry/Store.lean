import FieldSurvey.Proofs.Program.Run
import FieldSurvey.Registry.Calls
import FieldSurvey.Registry.Revision
import Mathlib.Data.List.Nodup

/-!
# What a store holds

A store is seen through `get?`: the entity under every id.  A write changes what
is seen under one id and nothing else.  In a well kept store every entity stands
under its own id, and no id stands there twice; every call keeps it that way.
-/

namespace FieldSurvey.Registry

open Model (Application Endpoint)

/-- Only the generation of an entity changes with its generation. -/
class LawfulEntity (α : Type) [Entity α] : Prop where
  id_inGeneration : ∀ (generation : Option String) (entity : α),
    Entity.id (Entity.inGeneration generation entity) = Entity.id entity
  discovererId_inGeneration : ∀ (generation : Option String) (entity : α),
    Entity.discovererId (Entity.inGeneration generation entity) = Entity.discovererId entity
  generation_inGeneration : ∀ (generation : Option String) (entity : α),
    Entity.generation (Entity.inGeneration generation entity) = generation
  inGeneration_inGeneration : ∀ (later earlier : Option String) (entity : α),
    Entity.inGeneration later (Entity.inGeneration earlier entity) =
      Entity.inGeneration later entity

attribute [simp] LawfulEntity.id_inGeneration LawfulEntity.discovererId_inGeneration
  LawfulEntity.generation_inGeneration LawfulEntity.inGeneration_inGeneration

instance : LawfulEntity Application where
  id_inGeneration _ _ := rfl
  discovererId_inGeneration _ _ := rfl
  generation_inGeneration _ _ := rfl
  inGeneration_inGeneration _ _ _ := rfl

instance : LawfulEntity Endpoint where
  id_inGeneration _ _ := rfl
  discovererId_inGeneration _ _ := rfl
  generation_inGeneration _ _ := rfl
  inGeneration_inGeneration _ _ _ := rfl

namespace Store

variable {α : Type}

/-- Looking up a key that stands in front, or else further back. -/
theorem lookup_cons_ite (id : String) (first : String × α) (rest : List (String × α)) :
    (first :: rest).lookup id = if first.1 = id then some first.2 else rest.lookup id := by
  rcases first with ⟨key, value⟩
  by_cases head : key = id
  · subst head
    simp
  · have apart : (id == key) = false := by simpa using fun equal => head (Eq.symm equal)
    simp [List.lookup_cons, apart, head]

theorem lookup_putInto (id : String) (entity : α) (entries : List (String × α)) (other : String) :
    (putInto id entity entries).lookup other =
      if id = other then some entity else entries.lookup other := by
  induction entries with
  | nil => simp [putInto, lookup_cons_ite]
  | cons first rest ih =>
      unfold putInto
      by_cases head : first.1 = id
      · by_cases same : id = other <;> simp [head, lookup_cons_ite, same]
      · by_cases same : id = other
        · have apart : ¬first.1 = other := fun equal => head (equal.trans same.symm)
          rw [if_neg head, lookup_cons_ite, if_neg apart, ih]
          simp [same]
        · simp [head, lookup_cons_ite, ih, same]

theorem mem_of_lookup {entries : List (String × α)} {id : String} {entity : α}
    (found : entries.lookup id = some entity) : (id, entity) ∈ entries := by
  induction entries with
  | nil => simp at found
  | cons first rest ih =>
      rw [lookup_cons_ite] at found
      split at found
      · rename_i head
        have value : first.2 = entity := Option.some.inj found
        exact List.mem_cons.mpr (Or.inl (by rw [← head, ← value]))
      · exact List.mem_cons_of_mem first (ih found)

theorem lookup_of_mem {entries : List (String × α)} (nodup : (entries.map Prod.fst).Nodup)
    {id : String} {entity : α} (member : (id, entity) ∈ entries) :
    entries.lookup id = some entity := by
  induction entries with
  | nil => simp at member
  | cons first rest ih =>
      simp only [List.map_cons, List.nodup_cons] at nodup
      rw [lookup_cons_ite]
      rcases List.mem_cons.mp member with equal | inRest
      · simp [← equal]
      · have apart : first.1 ≠ id := by
          rintro rfl
          exact nodup.1 (List.mem_map.mpr ⟨_, inRest, rfl⟩)
        rw [if_neg apart]
        exact ih nodup.2 inRest

theorem keys_putInto (id : String) (entity : α) (entries : List (String × α)) :
    (putInto id entity entries).map Prod.fst =
      if id ∈ entries.map Prod.fst then entries.map Prod.fst
      else entries.map Prod.fst ++ [id] := by
  induction entries with
  | nil => simp [putInto]
  | cons first rest ih =>
      by_cases head : first.1 = id
      · simp [putInto, head]
      · have apart : ¬id = first.1 := fun equal => head equal.symm
        by_cases member : id ∈ rest.map Prod.fst
        · simp only [List.mem_map, Prod.exists, exists_and_right, exists_eq_right] at member
          simp [putInto, head, ih, member, apart]
        · simp only [List.mem_map, Prod.exists, exists_and_right, exists_eq_right] at member
          simp [putInto, head, ih, member, apart]

theorem mem_putInto {id : String} {entity : α} {entries : List (String × α)}
    {entry : String × α} (member : entry ∈ putInto id entity entries) :
    entry = (id, entity) ∨ entry ∈ entries := by
  induction entries with
  | nil => exact Or.inl (by simpa [putInto] using member)
  | cons first rest ih =>
      unfold putInto at member
      split at member
      · rcases List.mem_cons.mp member with equal | rest
        · exact Or.inl equal
        · exact Or.inr (List.mem_cons_of_mem first rest)
      · rcases List.mem_cons.mp member with equal | inRest
        · exact Or.inr (equal ▸ List.mem_cons_self)
        · rcases ih inRest with equal | old
          · exact Or.inl equal
          · exact Or.inr (List.mem_cons_of_mem first old)

variable [Entity α]

/-- Every entity stands under its own id, and no id stands there twice. -/
structure WellKept (store : Store α) : Prop where
  keys_nodup : (store.entries.map Prod.fst).Nodup
  id_eq_key : ∀ entry ∈ store.entries, Entity.id entry.2 = entry.1

theorem wellKept_empty : WellKept ({} : Store α) :=
  ⟨List.nodup_nil, by simp⟩

namespace WellKept

theorem get?_eq_some_iff {store : Store α} (kept : store.WellKept) (id : String) (entity : α) :
    store.get? id = some entity ↔ (id, entity) ∈ store.entries :=
  ⟨mem_of_lookup, lookup_of_mem kept.keys_nodup⟩

theorem id_of_get? {store : Store α} (kept : store.WellKept) {id : String} {entity : α}
    (found : store.get? id = some entity) : Entity.id entity = id :=
  kept.id_eq_key _ (mem_of_lookup found)

theorem mem_toList {store : Store α} (kept : store.WellKept) (entity : α) :
    entity ∈ store.toList ↔ store.get? (Entity.id entity) = some entity := by
  rw [kept.get?_eq_some_iff]
  simp only [toList, List.mem_map, Prod.exists, exists_eq_right]
  constructor
  · rintro ⟨key, member⟩
    rw [kept.id_eq_key _ member]
    exact member
  · intro member
    exact ⟨_, member⟩

/-- The ids that a discoverer is told it owns are those under which an entity of
its own is stored. -/
theorem mem_ownedBy_ids {store : Store α} (kept : store.WellKept) (discovererId id : String) :
    id ∈ (store.ownedBy discovererId).map Entity.id ↔
      ∃ entity, store.get? id = some entity ∧
        Entity.discovererId entity = some discovererId := by
  simp only [ownedBy, List.mem_map, List.mem_filter, beq_iff_eq]
  constructor
  · rintro ⟨entity, ⟨member, owned⟩, rfl⟩
    exact ⟨entity, (kept.mem_toList entity).mp member, owned⟩
  · rintro ⟨entity, found, owned⟩
    have same := kept.id_of_get? found
    subst same
    exact ⟨entity, ⟨(kept.mem_toList entity).mpr found, owned⟩, rfl⟩

/-- No two stored entities have the same id. -/
theorem nodup_ids {store : Store α} (kept : store.WellKept) :
    (store.toList.map Entity.id).Nodup := by
  have ids : store.toList.map Entity.id = store.entries.map Prod.fst := by
    rw [toList, List.map_map]
    exact List.map_congr_left kept.id_eq_key
  exact ids ▸ kept.keys_nodup

/-- A discoverer is told of an id only once. -/
theorem nodup_ownedBy_ids {store : Store α} (kept : store.WellKept) (discovererId : String) :
    ((store.ownedBy discovererId).map Entity.id).Nodup :=
  kept.nodup_ids.sublist (List.filter_sublist.map Entity.id)

end WellKept

/-- A write is seen under the id of its entity. -/
theorem get?_write (supply : Nat → String) (store : Store α) (entity : α) (id : String) :
    (store.write supply entity).2.get? id =
      if Entity.id entity = id then some (store.write supply entity).1 else store.get? id :=
  lookup_putInto _ _ _ _

theorem write_fst (supply : Nat → String) (store : Store α) (entity : α) :
    (store.write supply entity).1 = Entity.inGeneration (some (supply store.writes)) entity :=
  rfl

theorem WellKept.write [LawfulEntity α] {store : Store α} (kept : store.WellKept)
    (supply : Nat → String) (entity : α) : (store.write supply entity).2.WellKept where
  keys_nodup := by
    simp only [Store.write, keys_putInto]
    split
    · exact kept.keys_nodup
    · rename_i fresh
      exact List.nodup_append.mpr ⟨kept.keys_nodup, by simp, by
        intro key member other last equal
        exact fresh (List.mem_singleton.mp last ▸ equal ▸ member)⟩
  id_eq_key := by
    intro entry member
    rcases mem_putInto member with equal | old
    · subst equal
      exact LawfulEntity.id_inGeneration _ _
    · exact kept.id_eq_key entry old

/-- An entity may be written back in the generation in which it was read. -/
theorem accepts_of_generation_eq {stored entity : α}
    (same : Entity.generation entity = Entity.generation stored) :
    accepts stored entity = true := by
  unfold accepts
  cases found : Entity.generation entity with
  | none => rfl
  | some generation => simp [← same, found]

end Store

/-! ## Undisturbed revisions

A revision that nobody interferes with reads an entity, and writes it at the first
attempt if the change makes a difference.
-/

/-- A change of an entity that leaves its id and its generation alone. -/
def KeepsIdentity {α : Type} [Entity α] (change : α → Option α) : Prop :=
  ∀ ⦃current entity⦄, change current = some entity →
    Entity.id entity = Entity.id current ∧ Entity.generation entity = Entity.generation current

namespace Store

variable {α : Type} [Entity α]

/-- What a revision does to a store that nobody else writes. -/
def revised (supply : Nat → String) (id : String) (change : α → Option α) (store : Store α) :
    Revision α × Store α :=
  match store.get? id with
  | none => (⟨.ok none, 0, false⟩, store)
  | some current =>
    match change current with
    | none => (⟨.ok (some current), 1, false⟩, store)
    | some entity =>
      (⟨.ok (some (store.write supply entity).1), 1, true⟩, (store.write supply entity).2)

theorem run_revise {supply : Nat → String} {store : Store α} (kept : store.WellKept) (id : String)
    (attempts : Nat) {change : α → Option α} (keeps : KeepsIdentity change) :
    (Revision.revise id attempts change).run (handler supply) store =
      store.revised supply id change := by
  obtain ⟨more, limit⟩ : ∃ more, max attempts 1 = more + 1 := ⟨max attempts 1 - 1, by omega⟩
  unfold Revision.revise Revision.reviseBy revised
  rw [limit]
  simp only [Revision.attempt, Program.run_call, handler_get]
  cases found : store.get? id with
  | none => rfl
  | some current =>
      simp only
      cases changed : change current with
      | none => rfl
      | some entity =>
          obtain ⟨sameId, sameGeneration⟩ := keeps changed
          have stored : store.get? (Entity.id entity) = some current := by
            rw [sameId, kept.id_of_get? found, found]
          simp [update_of_accepts stored (accepts_of_generation_eq sameGeneration)]

end Store

end FieldSurvey.Registry
