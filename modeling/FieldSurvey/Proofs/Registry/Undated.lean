import FieldSurvey.Proofs.Registry.Writing

/-!
# Registries without dates

The generations and the readings of the clock in a registry depend on when and where it
was written.  A registry without them is undated.  Two registries that are the same but
for them resemble each other, and a revision does the same to both.
-/

namespace FieldSurvey.Model

/-- The context without its time, if it may have been read from a clock: such a context
names nobody. -/
def Context.undated (context : Context) : Context :=
  if context.authorityId.isNone then { context with time := .epoch } else context

/-- The application without generation and readings of the clock. -/
def Application.undated (application : Application) : Application :=
  { application with
    notSeenSince := application.notSeenSince.map fun _ => .epoch
    created := application.created.map Context.undated
    updated := application.updated.map Context.undated
    generationId := none }

/-- The endpoint without generation and readings of the clock. -/
def Endpoint.undated (endpoint : Endpoint) : Endpoint :=
  { endpoint with
    notSeenSince := endpoint.notSeenSince.map fun _ => .epoch
    generationId := none }

end FieldSurvey.Model

namespace FieldSurvey.Registry

open Model (Application Endpoint)

/-- Entities that can be told without dates. -/
class DatedEntity (α : Type) [Entity α] where
  undated : α → α
  undated_inGeneration : ∀ (generation : Option String) (entity : α),
    undated (Entity.inGeneration generation entity) = undated entity
  id_undated : ∀ entity : α, Entity.id (undated entity) = Entity.id entity
  discovererId_undated : ∀ entity : α,
    Entity.discovererId (undated entity) = Entity.discovererId entity

open DatedEntity (undated)

instance : DatedEntity Application where
  undated := Application.undated
  undated_inGeneration _ _ := rfl
  id_undated _ := rfl
  discovererId_undated _ := rfl

instance : DatedEntity Endpoint where
  undated := Endpoint.undated
  undated_inGeneration _ _ := rfl
  id_undated _ := rfl
  discovererId_undated _ := rfl

section Entities

variable {α : Type} [Entity α] [DatedEntity α] {left right : α}

theorem id_eq_of_undated_eq (same : undated left = undated right) :
    Entity.id left = Entity.id right := by
  rw [← DatedEntity.id_undated left, same, DatedEntity.id_undated]

/-- Two changes that do the same but for dates. -/
def Concur (first second : α → Option α) : Prop :=
  ∀ ⦃left right⦄, undated left = undated right →
    (first left).map undated = (second right).map undated

end Entities

namespace Store

variable {α : Type} [Entity α] [DatedEntity α]

/-- What a store holds, without dates. -/
def undated (store : Store α) : List (String × α) :=
  store.entries.map fun entry => (entry.1, DatedEntity.undated entry.2)

/-- Two well kept stores that are the same but for dates. -/
structure Resembles (left right : Store α) : Prop where
  leftKept : left.WellKept
  rightKept : right.WellKept
  undated_eq : left.undated = right.undated

theorem resembles_empty : Resembles ({} : Store α) {} :=
  ⟨wellKept_empty, wellKept_empty, rfl⟩

theorem lookup_undated (store : Store α) (id : String) :
    store.undated.lookup id = (store.get? id).map DatedEntity.undated := by
  unfold undated get?
  induction store.entries with
  | nil => rfl
  | cons first rest ih =>
      rw [List.map_cons, lookup_cons_ite, lookup_cons_ite, ih]
      split <;> rfl

theorem undated_write (supply : Nat → String) (store : Store α) (entity : α) :
    (store.write supply entity).2.undated =
      putInto (Entity.id entity) (DatedEntity.undated entity) store.undated := by
  simp only [undated, write]
  induction store.entries with
  | nil => simp [putInto, DatedEntity.undated_inGeneration]
  | cons first rest ih =>
      simp only [putInto, List.map_cons]
      split
      · simp [DatedEntity.undated_inGeneration]
      · rw [List.map_cons, ih]

namespace Resembles

variable {left right : Store α} {supply other : Nat → String}

theorem get?_undated (resembles : left.Resembles right) (id : String) :
    (left.get? id).map DatedEntity.undated = (right.get? id).map DatedEntity.undated := by
  rw [← lookup_undated, resembles.undated_eq, lookup_undated]

/-- A discoverer owns the same ids in both stores. -/
theorem ownedBy_ids (resembles : left.Resembles right) (discovererId : String) :
    (left.ownedBy discovererId).map Entity.id = (right.ownedBy discovererId).map Entity.id := by
  have told : ∀ store : Store α, (store.ownedBy discovererId).map Entity.id =
      ((store.undated.map Prod.snd).filter fun entity =>
        Entity.discovererId entity == some discovererId).map Entity.id := by
    intro store
    simp only [ownedBy, toList, undated, List.map_map, List.filter_map, Function.comp_def,
      DatedEntity.discovererId_undated, DatedEntity.id_undated]
  rw [told left, told right, resembles.undated_eq]

theorem write [LawfulEntity α] (resembles : left.Resembles right) {first second : α}
    (same : DatedEntity.undated first = DatedEntity.undated second) :
    (left.write supply first).2.Resembles (right.write other second).2 where
  leftKept := resembles.leftKept.write supply first
  rightKept := resembles.rightKept.write other second
  undated_eq := by
    rw [undated_write, undated_write, resembles.undated_eq, id_eq_of_undated_eq same, same]

end Resembles

end Store

/-- What a revision tells apart from the entity that it ends with. -/
def Revision.gist {α : Type} (revision : Revision α) : Except Fault Bool × Bool :=
  (revision.result.map Option.isSome, revision.changed)

/-- Two revisions with the same gist ended alike. -/
theorem cases_of_gist_eq {α : Type} {revision twin : Revision α}
    (same : revision.gist = twin.gist) :
    (∃ entity counterpart, revision.result = .ok (some entity) ∧
        twin.result = .ok (some counterpart) ∧ revision.changed = twin.changed) ∨
      (revision.result = .ok none ∧ twin.result = .ok none) ∨
      ∃ fault, revision.result = .error fault ∧ twin.result = .error fault := by
  obtain ⟨sameResult, sameChanged⟩ := Prod.mk.inj same
  rcases here : revision.result with fault | _ | entity <;>
    rcases there : twin.result with faultThere | _ | counterpart <;>
    simp_all [Except.map]

theorem countLost_eq_of_gist_eq {α : Type} {revision twin : Revision α}
    (same : revision.gist = twin.gist) (summary : Summary) :
    countLost revision summary = countLost twin summary := by
  unfold countLost
  obtain ⟨_, _, here, there, changed⟩ | ⟨here, there⟩ | ⟨_, here, there⟩ := cases_of_gist_eq same
  · rw [here, there, changed]
  · have changed : revision.changed = twin.changed := congrArg Prod.snd same
    rw [here, there, changed]
  · rw [here, there]

/-- Changes that concur do the same to stores that resemble each other. -/
theorem Store.Resembles.revised {α : Type} [Entity α] [LawfulEntity α] [DatedEntity α]
    (supply other : Nat → String) {left right : Store α} (resembles : left.Resembles right)
    (id : String) {first second : α → Option α} (concur : Concur first second) :
    (left.revised supply id first).1.gist = (right.revised other id second).1.gist ∧
      (left.revised supply id first).2.Resembles (right.revised other id second).2 := by
  have stored := resembles.get?_undated id
  unfold Store.revised
  cases here : left.get? id with
  | none =>
      cases there : right.get? id with
      | none => exact ⟨rfl, resembles⟩
      | some _ => simp [here, there] at stored
  | some current =>
      cases there : right.get? id with
      | none => simp [here, there] at stored
      | some twin =>
          have same : DatedEntity.undated current = DatedEntity.undated twin := by
            simpa [here, there] using stored
          have changes := concur same
          cases changed : first current with
          | none =>
              cases changedToo : second twin with
              | none => simpa [changed, changedToo] using ⟨rfl, resembles⟩
              | some _ => simp [changed, changedToo] at changes
          | some entity =>
              cases changedToo : second twin with
              | none => simp [changed, changedToo] at changes
              | some counterpart =>
                  have written : DatedEntity.undated entity = DatedEntity.undated counterpart := by
                    simpa [changed, changedToo] using changes
                  simpa [changed, changedToo] using ⟨rfl, resembles.write written⟩

end FieldSurvey.Registry
