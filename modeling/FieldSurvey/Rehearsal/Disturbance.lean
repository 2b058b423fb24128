import FieldSurvey.Registry.Calls

/-!
# Disturbed stores

A disturbed store answers like a store, but for a list of planned disturbances:
some calls do not reach it and fail, a read finds nothing, or an addition
overwrites what is there.  With it one rehearses what a registry does when its
storage misbehaves.
-/

namespace FieldSurvey.Rehearsal

open Registry (Fault Entity Store StoreCall StoreSignature Call Calls)
open Model (Application Endpoint)

/-- The kinds of calls of a store. -/
inductive StoreMethod where
  | get
  | add
  | update
  | listBy
  | list
  deriving DecidableEq, Repr

/-- How a call is disturbed. -/
inductive Effect where
  | storage
  | outOfDate
  | conflict
  | notFound
  /-- a read finds nothing -/
  | vanish
  /-- an addition overwrites what is there -/
  | replace
  deriving DecidableEq, Repr

/-- The fault with which a disturbed call fails.  An effect that the call cannot have
is a failure of the storage. -/
def Effect.fault (id : String) : Effect → Fault
  | storage => .storage "disk unavailable"
  | outOfDate => .outOfDate id
  | conflict => .conflict id
  | notFound => .notFound id
  | vanish => .storage "disk unavailable"
  | replace => .storage "disk unavailable"

/-- A disturbance of the next calls of one kind. -/
structure Disturbance where
  method : StoreMethod
  /-- the address of the entity or the discoverer concerned; nothing stands for any -/
  key : Option String
  effect : Effect
  /-- how many calls are still to be disturbed -/
  shots : Nat := 1

/-- Whether a disturbance concerns a call about something of the given address. -/
def Disturbance.concerns (disturbance : Disturbance) (method : StoreMethod)
    (address : Option String) : Bool :=
  disturbance.shots != 0 && disturbance.method == method &&
    (disturbance.key.isNone || disturbance.key == address)

/-- Uses up one shot of the first disturbance that concerns a call. -/
def shoot (method : StoreMethod) (address : Option String) :
    List Disturbance → Option Effect × List Disturbance
  | [] => (none, [])
  | first :: rest =>
    if first.concerns method address then
      (some first.effect, { first with shots := first.shots - 1 } :: rest)
    else
      let (effect, rest) := shoot method address rest
      (effect, first :: rest)

/-- A store with the disturbances that are still to come, and the ids that were
written so far, the last one first. -/
structure DisturbedStore (α : Type) where
  store : Store α := {}
  disturbances : List Disturbance := []
  written : List String := []

namespace DisturbedStore

variable {α : Type} [Entity α]

/-- Plans a disturbance. -/
def disturb (disturbed : DisturbedStore α) (disturbance : Disturbance) : DisturbedStore α :=
  { disturbed with disturbances := disturbed.disturbances ++ [disturbance] }

/-- How often the entity of an id was written. -/
def version (disturbed : DisturbedStore α) (id : String) : Nat :=
  disturbed.written.count id

/-- The kind of a call. -/
def method : StoreCall α → StoreMethod
  | .get _ => .get
  | .add _ => .add
  | .update _ => .update
  | .listBy _ => .listBy
  | .list => .list

/-- What a call is about. -/
def id : StoreCall α → String
  | .get id => id
  | .add entity => Entity.id entity
  | .update entity => Entity.id entity
  | .listBy discovererId => discovererId
  | .list => ""

/-- The address by which disturbances find a call.  A read is found by what is
stored. -/
def address (disturbed : DisturbedStore α) : StoreCall α → Option String
  | .get id => (disturbed.store.get? id).map Entity.address
  | .add entity => some (Entity.address entity)
  | .update entity => some (Entity.address entity)
  | .listBy discovererId => some discovererId
  | .list => none

/-- The reply to a call that fails. -/
def refuse (fault : Fault) : (request : StoreCall α) → StoreCall.Reply request
  | .get _ => .error fault
  | .add _ => .error fault
  | .update _ => .error fault
  | .listBy _ => .error fault
  | .list => .error fault

/-- Passes a call on to the store and notes what is written. -/
def reach (supply : Nat → String) : Program.Handler (StoreSignature α) (DisturbedStore α) :=
  fun request disturbed =>
    let (reply, store) := Store.handler supply request disturbed.store
    let written :=
      if store.writes = disturbed.store.writes then disturbed.written
      else id request :: disturbed.written
    (reply, { disturbed with store, written })

/-- Stores an entity whether or not its id is free. -/
def overwrite (supply : Nat → String) (entity : α) (disturbed : DisturbedStore α) :
    Except Fault α × DisturbedStore α :=
  let (stamped, store) := disturbed.store.write supply entity
  (.ok stamped, { disturbed with store, written := Entity.id entity :: disturbed.written })

/-- Answers a call, disturbed or not.  Only reads can vanish and only additions can
replace. -/
def handler (supply : Nat → String) : Program.Handler (StoreSignature α) (DisturbedStore α) :=
  fun request disturbed =>
    let (effect, disturbances) :=
      shoot (method request) (address disturbed request) disturbed.disturbances
    let disturbed := { disturbed with disturbances }
    match effect, request with
    | none, request => reach supply request disturbed
    | some .vanish, .get _ => (.ok none, disturbed)
    | some .replace, .add entity => overwrite supply entity disturbed
    | some effect, request => (refuse (effect.fault (id request)) request, disturbed)

end DisturbedStore

/-- The registry's two stores, each with disturbances of its own. -/
structure DisturbedRegistry where
  applications : DisturbedStore Application := {}
  endpoints : DisturbedStore Endpoint := {}

/-- Two disturbed stores answer the calls of the registry. -/
def DisturbedRegistry.handler (supply : Nat → String) :
    Program.Handler Calls DisturbedRegistry :=
  fun request registry =>
    match request with
    | .application request =>
      let (reply, applications) := DisturbedStore.handler supply request registry.applications
      (reply, { registry with applications })
    | .endpoint request =>
      let (reply, endpoints) := DisturbedStore.handler supply request registry.endpoints
      (reply, { registry with endpoints })

end FieldSurvey.Rehearsal
