import FieldSurvey.Model.Application
import FieldSurvey.Model.Endpoint
import FieldSurvey.Program

/-!
# Stores

A store keeps one entity under each id.  Every write gives the entity a new
generation.  An update that names a generation is refused if the stored entity
is in another one, so that nobody overwrites what they have not read.
-/

/-! ## The ways in which a call fails -/

namespace FieldSurvey.Registry

/-- Why a call failed. -/
inductive Fault where
  /-- no entity has the id -/
  | notFound (id : String)
  /-- an entity has the id already -/
  | conflict (id : String)
  /-- the entity was written since it was read -/
  | outOfDate (id : String)
  /-- a revision lost against other writers every time -/
  | retriesExhausted (id : String) (attempts : Nat)
  /-- the storage behind the store failed -/
  | storage (text : String)
  deriving DecidableEq, Repr

namespace Fault

/-- The wording of a fault. -/
def message : Fault → String
  | notFound id => s!"Resource '{id}' not found"
  | conflict id => s!"Resource '{id}' already exists"
  | outOfDate id => s!"Resource '{id}' is out of date"
  | retriesExhausted id attempts => s!"Giving up on '{id}' after {attempts} conflicting updates"
  | storage text => s!"Storage error: {text}"

/-- Whether the same change may succeed after a fresh read. -/
def isRetryable : Fault → Bool
  | outOfDate _ => true
  | _ => false

end Fault

end FieldSurvey.Registry

/-! ## What a store needs to know of the values it keeps -/

namespace FieldSurvey.Registry

/-- A value that a store keeps. -/
class Entity (α : Type) where
  id : α → String
  discovererId : α → Option String
  generation : α → Option String
  /-- the same entity in another generation -/
  inGeneration : Option String → α → α
  /-- the uri or url by which people know the entity -/
  address : α → String

instance : Entity Model.Application where
  id application := application.applicationId
  discovererId application := application.discovererId
  generation application := application.generationId
  inGeneration generation application := { application with generationId := generation }
  address application := application.applicationUri

instance : Entity Model.Endpoint where
  id endpoint := endpoint.id
  discovererId endpoint := endpoint.discovererId
  generation endpoint := endpoint.generationId
  inGeneration generation endpoint := { endpoint with generationId := generation }
  address endpoint := endpoint.endpointUrl

end FieldSurvey.Registry

/-! ## Calls and their answers -/

namespace FieldSurvey.Registry

/-- A call of a store. -/
inductive StoreCall (α : Type) where
  | get (id : String)
  | add (entity : α)
  | update (entity : α)
  | listBy (discovererId : String)
  | list

/-- What a call of a store is answered with. -/
abbrev StoreCall.Reply {α : Type} : StoreCall α → Type
  | get _ => Except Fault (Option α)
  | add _ => Except Fault α
  | update _ => Except Fault α
  | listBy _ => Except Fault (List α)
  | list => Except Fault (List α)

/-- The calls of a store. -/
abbrev StoreSignature (α : Type) : Signature where
  Call := StoreCall α
  Reply := StoreCall.Reply

/-- Entities by id, and the number of writes so far.  `supply` names the
generation of each write. -/
structure Store (α : Type) where
  entries : List (String × α) := []
  writes : Nat := 0

namespace Store

variable {α : Type} [Entity α]

/-- The entity stored under an id. -/
def get? (store : Store α) (id : String) : Option α :=
  store.entries.lookup id

/-- Sets the entity of an id in a list of entries. -/
def putInto (id : String) (entity : α) : List (String × α) → List (String × α)
  | [] => [(id, entity)]
  | first :: rest => if first.1 = id then (id, entity) :: rest else first :: putInto id entity rest

/-- The stored entities. -/
def toList (store : Store α) : List α :=
  store.entries.map Prod.snd

/-- The stored entities of a discoverer. -/
def ownedBy (store : Store α) (discovererId : String) : List α :=
  store.toList.filter fun entity => Entity.discovererId entity == some discovererId

/-- The number of stored entities. -/
def size (store : Store α) : Nat :=
  store.entries.length

/-- Stores an entity in a new generation, under its id. -/
def write (supply : Nat → String) (store : Store α) (entity : α) : α × Store α :=
  let stamped := Entity.inGeneration (some (supply store.writes)) entity
  (stamped,
    { entries := putInto (Entity.id entity) stamped store.entries, writes := store.writes + 1 })

/-- Stores an entity whose id is free. -/
def add (supply : Nat → String) (store : Store α) (entity : α) : Except Fault α × Store α :=
  match store.get? (Entity.id entity) with
  | some _ => (.error (.conflict (Entity.id entity)), store)
  | none =>
    let (stamped, store) := store.write supply entity
    (.ok stamped, store)

/-- Whether an update may replace a stored entity. -/
def accepts (stored entity : α) : Bool :=
  match Entity.generation entity with
  | some expected => Entity.generation stored == some expected
  | none => true

/-- Stores an entity, unless it names a generation other than that of the
stored one.  An entity that is not stored yet is stored in any case. -/
def update (supply : Nat → String) (store : Store α) (entity : α) : Except Fault α × Store α :=
  let replace :=
    let (stamped, store) := store.write supply entity
    (.ok stamped, store)
  match store.get? (Entity.id entity) with
  | some stored =>
    if accepts stored entity then replace
    else (.error (.outOfDate (Entity.id entity)), store)
  | none => replace

/-- A store answers every call by itself. -/
def handler (supply : Nat → String) : Program.Handler (StoreSignature α) (Store α) :=
  fun request store =>
    match request with
    | .get id => (.ok (store.get? id), store)
    | .add entity => store.add supply entity
    | .update entity => store.update supply entity
    | .listBy discovererId => (.ok (store.ownedBy discovererId), store)
    | .list => (.ok store.toList, store)

/-! ### What calls come to -/

variable {supply : Nat → String} {store : Store α} {entity stored : α}

@[simp]
theorem add_of_free (free : store.get? (Entity.id entity) = none) :
    store.add supply entity =
      (.ok (store.write supply entity).1, (store.write supply entity).2) := by
  simp [add, free]

@[simp]
theorem add_of_taken (found : store.get? (Entity.id entity) = some stored) :
    store.add supply entity = (.error (.conflict (Entity.id entity)), store) := by
  simp [add, found]

theorem update_of_accepts (found : store.get? (Entity.id entity) = some stored)
    (accepted : accepts stored entity) :
    store.update supply entity =
      (.ok (store.write supply entity).1, (store.write supply entity).2) := by
  simp [update, found, accepted]

theorem update_of_not_accepts (found : store.get? (Entity.id entity) = some stored)
    (refused : accepts stored entity = false) :
    store.update supply entity = (.error (.outOfDate (Entity.id entity)), store) := by
  simp [update, found, refused]

/-- An addition is carried out or refused. -/
theorem add_cases (supply : Nat → String) (store : Store α) (entity : α) :
    store.get? (Entity.id entity) = none ∧ store.add supply entity =
      (.ok (store.write supply entity).1, (store.write supply entity).2) ∨
    store.add supply entity = (.error (.conflict (Entity.id entity)), store) := by
  cases found : store.get? (Entity.id entity) with
  | none => exact .inl ⟨rfl, add_of_free found⟩
  | some stored => exact .inr (add_of_taken found)

/-- An update is carried out or refused. -/
theorem update_cases (supply : Nat → String) (store : Store α) (entity : α) :
    store.update supply entity =
      (.ok (store.write supply entity).1, (store.write supply entity).2) ∨
    store.update supply entity = (.error (.outOfDate (Entity.id entity)), store) := by
  unfold update
  dsimp only
  split
  · split
    · exact .inl rfl
    · exact .inr rfl
  · exact .inl rfl

@[simp]
theorem handler_get (supply : Nat → String) (store : Store α) (id : String) :
    handler supply (.get id) store = (.ok (store.get? id), store) :=
  rfl

@[simp]
theorem handler_add (supply : Nat → String) (store : Store α) (entity : α) :
    handler supply (.add entity) store = store.add supply entity :=
  rfl

@[simp]
theorem handler_update (supply : Nat → String) (store : Store α) (entity : α) :
    handler supply (.update entity) store = store.update supply entity :=
  rfl

@[simp]
theorem handler_listBy (supply : Nat → String) (store : Store α) (discovererId : String) :
    handler supply (.listBy discovererId) store = (.ok (store.ownedBy discovererId), store) :=
  rfl

end Store

end FieldSurvey.Registry
