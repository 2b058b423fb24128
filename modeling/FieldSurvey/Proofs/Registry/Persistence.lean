import FieldSurvey.Proofs.Registry.Outlook
import FieldSurvey.Rehearsal.Disturbance

/-!
# What lasts

Stores only grow: an entity that is stored stays there, and keeps its nature, which is its
id, its owner and whatever its id was derived from that nobody writes anew.  A call keeps
to this if it updates entities in their nature only, and it may fail at that without
reaching its store.
-/

namespace FieldSurvey.Registry

open Model (Application Endpoint)
open Rehearsal (DisturbedStore)
open Time (Timestamp)

/-- An entity with a nature that it keeps from one generation to the next. -/
class NaturedEntity (α : Type) [Entity α] where
  Nature : Type
  nature : α → Nature
  nature_inGeneration : ∀ (generation : Option String) (entity : α),
    nature (Entity.inGeneration generation entity) = nature entity
  id_of_nature : ∀ {first second : α}, nature first = nature second →
    Entity.id first = Entity.id second
  discovererId_of_nature : ∀ {first second : α}, nature first = nature second →
    Entity.discovererId first = Entity.discovererId second

export NaturedEntity (nature)

attribute [simp] NaturedEntity.nature_inGeneration

instance : NaturedEntity Application where
  Nature := String × Option String × String × Model.ApplicationType
  nature application := (application.applicationId, application.discovererId,
    application.applicationUri, application.applicationType)
  nature_inGeneration _ _ := rfl
  id_of_nature same := congrArg Prod.fst same
  discovererId_of_nature same := congrArg (fun nature => nature.2.1) same

instance : NaturedEntity Endpoint where
  Nature := String × Option String
  nature endpoint := (endpoint.id, endpoint.discovererId)
  nature_inGeneration _ _ := rfl
  id_of_nature same := congrArg Prod.fst same
  discovererId_of_nature same := congrArg Prod.snd same

/-- A change of an entity that leaves its nature alone. -/
def KeepsNature {α : Type} [Entity α] [NaturedEntity α] (change : α → Option α) : Prop :=
  ∀ ⦃current entity⦄, change current = some entity → nature entity = nature current

theorem keepsNature_refreshedApplication (run : Run) (seen : Application) :
    KeepsNature (refreshedApplication run seen) := by
  intro current entity changed
  obtain ⟨-, rfl⟩ := refreshedApplication_eq_some_iff.mp changed
  rfl

theorem keepsNature_refreshedEndpoint (seen : Endpoint) :
    KeepsNature (refreshedEndpoint seen) := by
  intro current entity changed
  obtain ⟨-, rfl⟩ := refreshedEndpoint_eq_some_iff.mp changed
  rfl

theorem keepsNature_lostApplication (run : Run) (now : Timestamp) :
    KeepsNature (lostApplication run now) := by
  intro current entity changed
  obtain ⟨-, rfl⟩ := lostApplication_eq_some_iff.mp changed
  rfl

theorem keepsNature_lostEndpoint (now : Timestamp) : KeepsNature (lostEndpoint now) := by
  intro current entity changed
  obtain ⟨-, rfl⟩ := lostEndpoint_eq_some_iff.mp changed
  rfl

namespace Store

variable {α : Type} [Entity α]

/-- Answers a call, or lets it fail with a fault. -/
def answer (supply : Nat → String) (fault? : Option Fault) :
    Program.Handler (StoreSignature α) (Store α) :=
  fun request store =>
    match fault? with
    | some fault => (DisturbedStore.refuse fault request, store)
    | none => Store.handler supply request store

variable {supply : Nat → String} {store : Store α}

variable (supply store) in
/-- The store after a call is as it was, or the entity of the call was written: one that
was not there is added, and one that is there is updated. -/
theorem answer_cases (fault? : Option Fault) (request : StoreCall α) :
    (answer supply fault? request store).2 = store ∨
    ∃ entity, (answer supply fault? request store).2 = (store.write supply entity).2 ∧
      (request = .add entity ∧ store.get? (Entity.id entity) = none ∨
        request = .update entity) := by
  cases fault? with
  | some fault => exact Or.inl rfl
  | none =>
      cases request with
      | get id => exact Or.inl rfl
      | listBy discovererId => exact Or.inl rfl
      | list => exact Or.inl rfl
      | add entity =>
          rcases add_cases supply store entity with ⟨free, carriedOut⟩ | refused
          · exact Or.inr ⟨entity, congrArg Prod.snd carriedOut, Or.inl ⟨rfl, free⟩⟩
          · exact Or.inl (congrArg Prod.snd refused)
      | update entity =>
          rcases update_cases supply store entity with carriedOut | refused
          · exact Or.inr ⟨entity, congrArg Prod.snd carriedOut, Or.inr rfl⟩
          · exact Or.inl (congrArg Prod.snd refused)

theorem WellKept.answer [LawfulEntity α] (kept : store.WellKept) (fault? : Option Fault)
    (request : StoreCall α) : (Store.answer supply fault? request store).2.WellKept := by
  rcases answer_cases supply store fault? request with
    same | ⟨entity, wrote, -⟩
  · rwa [same]
  · rw [wrote]
    exact kept.write supply entity

/-- What is found under an id is what stands there. -/
theorem get?_of_answer_get {fault? : Option Fault} {id : String} {entity : α}
    (found : (answer supply fault? (.get id) store).1 = .ok (some entity)) :
    store.get? id = some entity := by
  cases fault? with
  | some fault => contradiction
  | none => exact Except.ok.inj found

/-- What is listed for a discoverer is its own. -/
theorem isOwned_of_answer_listBy (kept : store.WellKept) {fault? : Option Fault}
    {discovererId : String} {entities : List α}
    (listed : (answer supply fault? (.listBy discovererId) store).1 = .ok entities) {id : String}
    (member : id ∈ entities.map Entity.id) : IsOwned discovererId (store.get? id) := by
  cases fault? with
  | some fault => contradiction
  | none =>
      have same : store.ownedBy discovererId = entities := Except.ok.inj listed
      rw [← kept.mem_ownedBy_ids_iff_isOwned discovererId id, same]
      exact member

variable [NaturedEntity α]

/-- Every entity of a store is still there, in its nature. -/
def Persists (before after : Store α) : Prop :=
  ∀ id former, before.get? id = some former →
    ∃ stored, after.get? id = some stored ∧ nature stored = nature former

namespace Persists

theorem refl (store : Store α) : store.Persists store :=
  fun _ former present => ⟨former, present, rfl⟩

theorem trans {before middle after : Store α} (first : before.Persists middle)
    (second : middle.Persists after) : before.Persists after := by
  intro id former present
  obtain ⟨between, stands, sameFirst⟩ := first id former present
  obtain ⟨stored, remains, sameSecond⟩ := second id between stands
  exact ⟨stored, remains, sameSecond.trans sameFirst⟩

theorem isOwned {before after : Store α} (persists : before.Persists after)
    {discovererId id : String} (owned : IsOwned discovererId (before.get? id)) :
    IsOwned discovererId (after.get? id) := by
  obtain ⟨former, present, isOwn⟩ := isOwned_iff.mp owned
  obtain ⟨stored, stands, same⟩ := persists id former present
  exact isOwned_iff.mpr ⟨stored, stands, (NaturedEntity.discovererId_of_nature same).trans isOwn⟩

end Persists

theorem persists_write (supply : Nat → String) {store : Store α} {entity : α}
    (fits : ∀ former, store.get? (Entity.id entity) = some former →
      nature entity = nature former) :
    store.Persists (store.write supply entity).2 := by
  intro id former present
  rw [get?_write]
  by_cases same : Entity.id entity = id
  · refine ⟨_, if_pos same, ?_⟩
    rw [write_fst, NaturedEntity.nature_inGeneration]
    exact fits former (same ▸ present)
  · exact ⟨former, (if_neg same).trans present, rfl⟩

/-- A call that updates an entity in its nature, if it updates one, lets all others be. -/
theorem persists_answer {fault? : Option Fault} {request : StoreCall α}
    (fits : ∀ entity former, request = .update entity →
      store.get? (Entity.id entity) = some former → nature entity = nature former) :
    store.Persists (answer supply fault? request store).2 := by
  rcases answer_cases supply store fault? request with
    same | ⟨entity, wrote, ⟨-, free⟩ | updates⟩
  · rw [same]
    exact .refl store
  · rw [wrote]
    apply persists_write
    intro former present
    rw [free] at present
    contradiction
  · rw [wrote]
    exact persists_write supply fun former present => fits entity former updates present

end Store

/-! ## Both stores -/

/-- Answers a call of the registry, or lets it fail with a fault. -/
def Contents.answer (supply : Nat → String) (fault? : Option Fault) :
    Program.Handler Calls Contents :=
  fun request contents =>
    match request with
    | .application request =>
      let (reply, applications) := Store.answer supply fault? request contents.applications
      (reply, { contents with applications })
    | .endpoint request =>
      let (reply, endpoints) := Store.answer supply fault? request contents.endpoints
      (reply, { contents with endpoints })

/-- A registry that has grown from another one, and is well kept. -/
structure Contents.Persists (before after : Contents) : Prop where
  wellKept : after.WellKept
  applications : before.applications.Persists after.applications
  endpoints : before.endpoints.Persists after.endpoints

theorem Contents.Persists.refl {contents : Contents} (kept : contents.WellKept) :
    contents.Persists contents :=
  ⟨kept, .refl _, .refl _⟩

theorem Contents.Persists.trans {before middle after : Contents} (first : before.Persists middle)
    (second : middle.Persists after) : before.Persists after :=
  ⟨second.wellKept, first.applications.trans second.applications,
    first.endpoints.trans second.endpoints⟩

end FieldSurvey.Registry
