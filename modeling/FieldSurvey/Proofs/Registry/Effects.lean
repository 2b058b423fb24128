import FieldSurvey.Proofs.Program.Ensures
import FieldSurvey.Proofs.Registry.Hardship

/-!
# What the calls of a registry come to

A fickle store may fail at a call without effect, or find nothing where it holds an entity.
The calls that it was asked tell what they have come to: how many entities they added and
updated, how many of these were written as lost, and how often an entity was gone right after
it could not be written as lost.  A revision has such effects as its result and its last
change tell.
-/

namespace FieldSurvey.Registry

open Model (Application Endpoint)

/-! ## Effects -/

/-- What calls have come to. -/
@[ext]
structure Effects where
  /-- additions that were carried out -/
  additions : Nat := 0
  /-- updates that were carried out -/
  updates : Nat := 0
  /-- writes that were carried out and made an entity lost -/
  losses : Nat := 0
  /-- entities that were gone when the store was asked again, after it had refused to write
  them as lost -/
  escapes : Nat := 0

instance : Add Effects where
  add first second :=
    { additions := first.additions + second.additions
      updates := first.updates + second.updates
      losses := first.losses + second.losses
      escapes := first.escapes + second.escapes }

namespace Effects

variable (first second third : Effects)

@[simp]
theorem additions_add : (first + second).additions = first.additions + second.additions :=
  rfl

@[simp]
theorem updates_add : (first + second).updates = first.updates + second.updates :=
  rfl

@[simp]
theorem losses_add : (first + second).losses = first.losses + second.losses :=
  rfl

@[simp]
theorem escapes_add : (first + second).escapes = first.escapes + second.escapes :=
  rfl

theorem add_assoc : first + second + third = first + (second + third) := by
  ext <;> simp [Nat.add_assoc]

theorem add_right_comm : first + second + third = first + third + second := by
  ext <;> simp [Nat.add_right_comm]

@[simp]
theorem none_add : {} + first = first := by
  ext <;> simp

end Effects

/-! ## Calls with their replies -/

variable {α : Type} [Entity α]

namespace Answered

omit [Entity α] in
/-- Whether an entity was added. -/
def isAddition : Answered α → Bool
  | ⟨.add _, .ok _⟩ => true
  | _ => false

omit [Entity α] in
/-- Whether an entity was updated. -/
def isUpdate : Answered α → Bool
  | ⟨.update _, .ok _⟩ => true
  | _ => false

omit [Entity α] in
/-- The id of which nothing was found. -/
def gone? : Answered α → Option String
  | ⟨.get id, .ok none⟩ => some id
  | _ => none

end Answered

/-! ## Fickle stores -/

variable {supply : Nat → String}

omit [Entity α] in
/-- Whether a call asks for several entities. -/
def StoreCall.isListing : StoreCall α → Bool
  | .listBy _ => true
  | .list => true
  | _ => false

/-- How a fickle store may answer.  A call works, or fails without effect, or is told that the
entity is gone; listings work. -/
def Store.Fickle (supply : Nat → String) (store : Store α) (request : StoreCall α)
    (reply : request.Reply) (after : Store α) : Prop :=
  (∃ fault?, (request.isListing → fault? = none) ∧
    (Store.answer supply fault? request store).1 = reply ∧
    (Store.answer supply fault? request store).2 = after) ∨
  ((Answered.gone? ⟨request, reply⟩).isSome ∧ after = store)

namespace Store.Fickle

variable {store after : Store α}

theorem wellKept [LawfulEntity α] {request : StoreCall α} {reply : request.Reply}
    (fickle : store.Fickle supply request reply after) (kept : store.WellKept) :
    after.WellKept := by
  obtain ⟨fault?, -, -, rfl⟩ | ⟨-, rfl⟩ := fickle
  · exact kept.answer fault? request
  · exact kept

/-- What is read stands there. -/
theorem get?_eq {id : String} {current : α}
    (fickle : store.Fickle supply (.get id) (.ok (some current)) after) :
    store.get? id = some current := by
  obtain ⟨fault?, -, read, -⟩ | ⟨gone, -⟩ := fickle
  · exact get?_of_answer_get read
  · contradiction

theorem listBy_eq {discovererId : String} {reply : Except Fault (List α)}
    (fickle : store.Fickle supply (.listBy discovererId) reply after) :
    reply = .ok (store.ownedBy discovererId) := by
  obtain ⟨fault?, works, rfl, -⟩ | ⟨gone, -⟩ := fickle
  · cases works rfl
    rfl
  · contradiction

/-- The writes of a store are the additions and updates that were carried out. -/
theorem writes_eq {request : StoreCall α} {reply : request.Reply}
    (fickle : store.Fickle supply request reply after) :
    after.writes = store.writes + (Answered.isAddition ⟨request, reply⟩).toNat +
      (Answered.isUpdate ⟨request, reply⟩).toNat := by
  obtain ⟨fault?, -, rfl, rfl⟩ | ⟨gone, rfl⟩ := fickle
  · cases fault? with
    | some fault => cases request <;> rfl
    | none =>
        cases request with
        | get id => rfl
        | listBy discovererId => rfl
        | list => rfl
        | add entity =>
            rcases add_cases supply store entity with ⟨-, carriedOut⟩ | refused
            · simp [answer, carriedOut, Answered.isAddition, Answered.isUpdate, Store.write]
            · simp [answer, refused, Answered.isAddition, Answered.isUpdate]
        | update entity =>
            rcases update_cases supply store entity with carriedOut | refused
            · simp [answer, carriedOut, Answered.isAddition, Answered.isUpdate, Store.write]
            · simp [answer, refused, Answered.isAddition, Answered.isUpdate]
  · cases request with
    | get id => rfl
    | _ => contradiction

end Store.Fickle

/-- The setting of a fickle store, which keeps its calls. -/
def UnreliableStore.fickle (supply : Nat → String) :
    Setting (StoreSignature α) (UnreliableStore α) where
  permits _ _ := True
  answers before request reply after :=
    before.store.Fickle supply request reply after.store ∧
      after.calls = before.calls ++ [⟨request, reply⟩]

/-- A store that refuses every update as out of date, and from which an entity is gone once it
was refused. -/
def UnreliableStore.elusive (supply : Nat → String) :
    Program.Handler (StoreSignature α) (UnreliableStore α) :=
  fun request before =>
    let (reply, store) : request.Reply × Store α :=
      match request with
      | .get id =>
        if before.isRefused id then (.ok none, before.store)
        else Store.answer supply none (.get id) before.store
      | .update entity =>
        Store.answer supply (some (.outOfDate (Entity.id entity))) (.update entity) before.store
      | request => Store.answer supply none request before.store
    (reply, { store, calls := before.calls ++ [⟨request, reply⟩] })

/-- Elusive stores are fickle. -/
theorem UnreliableStore.elusive_fickle (supply : Nat → String) (before : UnreliableStore α)
    (request : StoreCall α) :
    (UnreliableStore.fickle supply).answers before request
      (UnreliableStore.elusive supply request before).1
      (UnreliableStore.elusive supply request before).2 := by
  refine ⟨?_, rfl⟩
  cases request with
  | get id =>
      by_cases refused : before.isRefused id
      · exact Or.inr (by simp [elusive, refused, Answered.gone?])
      · exact Or.inl ⟨none, fun _ => rfl, by simp [elusive, refused], by simp [elusive, refused]⟩
  | update entity => exact Or.inl ⟨some _, fun listing => by contradiction, rfl, rfl⟩
  | add entity => exact Or.inl ⟨none, fun _ => rfl, rfl, rfl⟩
  | listBy discovererId => exact Or.inl ⟨none, fun _ => rfl, rfl, rfl⟩
  | list => exact Or.inl ⟨none, fun _ => rfl, rfl, rfl⟩

/-! ## What calls come to -/

/-- An entity that may be lost. -/
class LosableEntity (α : Type) [Entity α] where
  isLost : α → Bool

instance : LosableEntity Application where
  isLost := Application.isLost

instance : LosableEntity Endpoint where
  isLost := Endpoint.isLost

variable [LosableEntity α]

namespace Answered

/-- Whether an entity was written as lost. -/
def isLoss : Answered α → Bool
  | ⟨.add entity, .ok _⟩ => LosableEntity.isLost entity
  | ⟨.update entity, .ok _⟩ => LosableEntity.isLost entity
  | _ => false

/-- The id of the entity that was to be written as lost, but was refused. -/
def refusedLoss? : Answered α → Option String
  | ⟨.update entity, .error _⟩ =>
    if LosableEntity.isLost entity then some (Entity.id entity) else none
  | _ => none

/-- What a call has come to, if the one before it refused to write the entity of an id as
lost. -/
def effects (refused? : Option String) (answered : Answered α) : Effects where
  additions := answered.isAddition.toNat
  updates := answered.isUpdate.toNat
  losses := answered.isLoss.toNat
  escapes := (refused?.any fun id => answered.gone? = some id).toNat

/-- What neither wrote nor found anything gone has come to nothing. -/
theorem effects_eq_none {refused? : Option String} {answered : Answered α}
    (added : answered.isAddition = false) (updated : answered.isUpdate = false)
    (lost : answered.isLoss = false) (found : answered.gone? = none) :
    answered.effects refused? = {} := by
  cases refused? <;> simp [effects, added, updated, lost, found]

theorem effects_added (refused? : Option String) (entity written : α) :
    (⟨.add entity, .ok written⟩ : Answered α).effects refused? =
      { additions := 1, losses := (LosableEntity.isLost entity).toNat } := by
  cases refused? <;> rfl

theorem effects_updated (refused? : Option String) (entity written : α) :
    (⟨.update entity, .ok written⟩ : Answered α).effects refused? =
      { updates := 1, losses := (LosableEntity.isLost entity).toNat } := by
  cases refused? <;> rfl

/-- An entity that is gone has escaped, if it was refused right before when it was to be
written as lost. -/
theorem effects_gone {refused? : Option String} {id : String} {refused : Bool}
    (before : refused? = some id ↔ refused = true) :
    (⟨.get id, .ok none⟩ : Answered α).effects refused? = { escapes := refused.toNat } := by
  have same : (refused?.any fun other => gone? (⟨.get id, .ok none⟩ : Answered α) = some other) =
      refused := by
    rw [Bool.eq_iff_iff, ← before, Option.any_eq_true]
    constructor
    · rintro ⟨other, found, aboutId⟩
      rw [found, ← of_decide_eq_true aboutId]
      rfl
    · intro found
      exact ⟨id, found, decide_eq_true rfl⟩
  rw [effects, same]
  rfl

end Answered

/-- How often an entity was gone right after it could not be written as lost. -/
def escapes : List (Answered α) → Nat
  | first :: second :: rest =>
    (first.refusedLoss?.any fun id => second.gone? = some id).toNat + escapes (second :: rest)
  | _ => 0

/-- What a series of calls has come to. -/
def effects (calls : List (Answered α)) : Effects where
  additions := calls.countP Answered.isAddition
  updates := calls.countP Answered.isUpdate
  losses := calls.countP Answered.isLoss
  escapes := escapes calls

/-- The id of the entity that the last call was to write as lost, if it was refused. -/
def lastRefusedLoss? (calls : List (Answered α)) : Option String :=
  calls.getLast?.bind Answered.refusedLoss?

@[simp]
theorem lastRefusedLoss?_concat (calls : List (Answered α)) (last : Answered α) :
    lastRefusedLoss? (calls ++ [last]) = last.refusedLoss? := by
  simp [lastRefusedLoss?]

theorem escapes_concat (calls : List (Answered α)) (last : Answered α) :
    escapes (calls ++ [last]) =
      escapes calls + ((lastRefusedLoss? calls).any fun id => last.gone? = some id).toNat := by
  induction calls with
  | nil => rfl
  | cons first rest ih =>
      cases rest with
      | nil => simp [escapes, lastRefusedLoss?]
      | cons second rest =>
          have same : lastRefusedLoss? (first :: second :: rest) =
              lastRefusedLoss? (second :: rest) := by
            simp [lastRefusedLoss?]
          rw [List.cons_append, List.cons_append, escapes, escapes, same, Nat.add_assoc, ← ih,
            List.cons_append]

omit [Entity α] [LosableEntity α] in
theorem countP_concat (counted : Answered α → Bool) (calls : List (Answered α))
    (last : Answered α) :
    (calls ++ [last]).countP counted = calls.countP counted + (counted last).toNat := by
  rw [List.countP_append, List.countP_singleton]
  cases counted last <;> rfl

/-- A further call adds what it has come to. -/
theorem effects_concat (calls : List (Answered α)) (last : Answered α) :
    effects (calls ++ [last]) = effects calls + last.effects (lastRefusedLoss? calls) := by
  ext
  · exact countP_concat Answered.isAddition calls last
  · exact countP_concat Answered.isUpdate calls last
  · exact countP_concat Answered.isLoss calls last
  · exact escapes_concat calls last

/-- A series of calls with what it has come to.  Only the entity of the id `left` may have
been refused in the end when it was to be written as lost. -/
structure Booked (before after : UnreliableStore α) (left : Option String) (sum : Effects) :
    Prop where
  wellKept : after.store.WellKept
  effects : effects after.calls = effects before.calls + sum
  writes : after.store.writes = before.store.writes + sum.additions + sum.updates
  refused : ∀ id, lastRefusedLoss? after.calls = some id →
    left = some id ∨ lastRefusedLoss? before.calls = some id

namespace Booked

variable {before middle after : UnreliableStore α} {left : Option String} {sum later : Effects}

theorem refl (kept : before.store.WellKept) : Booked before before left {} where
  wellKept := kept
  effects := rfl
  writes := rfl
  refused _ isRefused := Or.inr isRefused

theorem trans (first : Booked before middle left sum) (second : Booked middle after left later) :
    Booked before after left (sum + later) where
  wellKept := second.wellKept
  effects := by rw [second.effects, first.effects, Effects.add_assoc]
  writes := by
    have written := second.writes
    rw [first.writes] at written
    simp only [Effects.additions_add, Effects.updates_add]
    omega
  refused id isRefused := by
    rcases second.refused id isRefused with here | earlier
    · exact Or.inl here
    · exact first.refused id earlier

/-- A single call. -/
theorem call [LawfulEntity α] (kept : before.store.WellKept) {request : StoreCall α}
    {reply : request.Reply}
    (answered : (UnreliableStore.fickle supply).answers before request reply after)
    (only : ∀ id, Answered.refusedLoss? ⟨request, reply⟩ = some id → left = some id) :
    Booked before after left
      (Answered.effects (lastRefusedLoss? before.calls) ⟨request, reply⟩) where
  wellKept := answered.1.wellKept kept
  effects := by rw [answered.2, effects_concat]
  writes := answered.1.writes_eq
  refused id isRefused := by
    rw [answered.2, lastRefusedLoss?_concat] at isRefused
    exact Or.inl (only id isRefused)

theorem updated [LawfulEntity α] (kept : before.store.WellKept) {entity written : α}
    (answered : (UnreliableStore.fickle supply).answers before (.update entity) (.ok written)
      after) :
    Booked before after left
      { updates := 1, losses := (LosableEntity.isLost entity).toNat } := by
  have booked : Booked before after left _ := call kept answered (by simp [Answered.refusedLoss?])
  rwa [Answered.effects_updated] at booked

theorem of_refused [LawfulEntity α] (kept : before.store.WellKept) {entity : α} {fault : Fault}
    (answered : (UnreliableStore.fickle supply).answers before (.update entity) (.error fault)
      after) :
    Booked before after
      (if LosableEntity.isLost entity then some (Entity.id entity) else none) {} := by
  have booked := call kept answered fun _ isRefused => isRefused
  rwa [Answered.effects_eq_none rfl rfl rfl rfl] at booked

/-- Where nothing was to be written as lost, nothing was refused of that kind. -/
theorem lastRefusedLoss?_eq_none (booked : Booked before after none sum)
    (silent : lastRefusedLoss? before.calls = none) : lastRefusedLoss? after.calls = none := by
  by_contra isRefused
  obtain ⟨id, refused⟩ := Option.ne_none_iff_exists'.mp isRefused
  rcases booked.refused id refused with here | earlier
  · contradiction
  · rw [silent] at earlier
    contradiction

end Booked

/-! ## Revisions -/

/-- What a revision has come to, by its result, if what it writes is lost or is not. -/
def Revision.effects (lost : Bool) (revision : Revision α) : Effects :=
  match revision.result with
  | .ok (some _) => if revision.changed then { updates := 1, losses := lost.toNat } else {}
  | .ok none => { escapes := (revision.changed && lost).toNat }
  | .error _ => {}

omit [Entity α] [LosableEntity α] in
/-- A revision that writes nothing as lost has come to nothing if its entity is gone. -/
@[simp]
theorem Revision.effects_gone (applied : Nat) (changed : Bool) :
    (⟨.ok none, applied, changed⟩ : Revision α).effects false = {} := by
  simp [Revision.effects]

section Revisions

variable [LawfulEntity α] {id : String} {change : α → Option α} {lost : Bool}

/-- A revision that goes on has come to what its result tells.  That its last attempt was
refused when it was to write the entity as lost is told by `changed`. -/
theorem ensures_attempt_booked (keeps : KeepsIdentity change)
    (marks : ∀ ⦃current entity⦄, change current = some entity →
      LosableEntity.isLost entity = lost)
    (limit applied : Nat) (changed : Bool) (attempts : Nat) {before : UnreliableStore α}
    (kept : before.store.WellKept)
    (refused : lastRefusedLoss? before.calls = some id ↔ (changed && lost) = true) :
    (Revision.attempt id limit (fun _ => change) applied changed attempts).Ensures
      (UnreliableStore.fickle supply)
      (fun revision after => Booked before after (if lost then some id else none)
        (revision.effects lost)) before := by
  -- Only after a refused attempt to write the entity as lost are `changed` and `lost` both true,
  -- so that a read which finds nothing is an escape just then.
  induction attempts generalizing before applied changed with
  | zero => exact .refl kept
  | succ attempts ih =>
      refine ⟨trivial, fun reply middle read => ?_⟩
      have booked : Booked before middle (if lost then some id else none) _ :=
        Booked.call kept read (by simp [Answered.refusedLoss?])
      cases reply with
      | error fault =>
          rw [Answered.effects_eq_none rfl rfl rfl rfl] at booked
          exact booked
      | ok found =>
          cases found with
          | none =>
              rw [Answered.effects_gone refused] at booked
              exact booked
          | some current =>
              rw [Answered.effects_eq_none rfl rfl rfl rfl] at booked
              have sameId : Entity.id current = id := kept.id_of_get? read.1.get?_eq
              simp only
              cases difference : change current with
              | none => exact booked
              | some entity =>
                  have isLost := marks difference
                  have aboutId : Entity.id entity = id := (keeps difference).1.trans sameId
                  refine ⟨trivial, fun answer reached wrote => ?_⟩
                  cases answer with
                  | ok written =>
                      have both := booked.trans (.updated booked.wellKept wrote)
                      rw [isLost, Effects.none_add] at both
                      exact both
                  | error fault =>
                      have refusal := Booked.of_refused booked.wellKept wrote
                      rw [isLost, aboutId] at refusal
                      have both := booked.trans refusal
                      by_cases again : fault.isRetryable = true
                      · simp only [again, if_true]
                        have left : lastRefusedLoss? reached.calls = some id ↔
                            (true && lost) = true := by
                          rw [wrote.2, lastRefusedLoss?_concat]
                          cases lost <;> simp [Answered.refusedLoss?, isLost, aboutId]
                        refine (ih (applied + 1) true both.wellKept left).imp ?_
                        intro revision after later
                        simpa using both.trans later
                      · simp only [again]
                        exact both

variable (supply) in
/-- A revision has come to what its result tells, if the call before it was not refused when
it was to write the same entity as lost. -/
theorem ensures_revise_booked (keeps : KeepsIdentity change)
    (marks : ∀ ⦃current entity⦄, change current = some entity →
      LosableEntity.isLost entity = lost)
    (attempts : Nat) {before : UnreliableStore α} (kept : before.store.WellKept)
    (fresh : lastRefusedLoss? before.calls ≠ some id) :
    (Revision.revise id attempts change).Ensures (UnreliableStore.fickle supply)
      (fun revision after => Booked before after (if lost then some id else none)
        (revision.effects lost)) before :=
  ensures_attempt_booked keeps marks _ _ _ _ kept (by simp [fresh])

end Revisions

/-! ## Registries -/

namespace UnreliableRegistry

/-- What the calls of both stores have come to. -/
def effects (registry : UnreliableRegistry) : Effects :=
  Registry.effects registry.applications.calls + Registry.effects registry.endpoints.calls

/-- How often the stores were written. -/
def writes (registry : UnreliableRegistry) : Nat :=
  registry.applications.store.writes + registry.endpoints.store.writes

/-- The setting of a registry whose stores are fickle. -/
def fickle (supply : Nat → String) : Setting Calls UnreliableRegistry where
  permits _ _ := True
  answers
    | before, .application request, reply, after =>
      (UnreliableStore.fickle supply).answers before.applications request reply
        after.applications ∧ after.endpoints = before.endpoints
    | before, .endpoint request, reply, after =>
      (UnreliableStore.fickle supply).answers before.endpoints request reply after.endpoints ∧
        after.applications = before.applications

/-- Two elusive stores answer the calls of the registry. -/
def elusive (supply : Nat → String) :
    Program.Handler Calls UnreliableRegistry :=
  fun request registry =>
    match request with
    | .application request =>
      let (reply, applications) := UnreliableStore.elusive supply request registry.applications
      (reply, { registry with applications })
    | .endpoint request =>
      let (reply, endpoints) := UnreliableStore.elusive supply request registry.endpoints
      (reply, { registry with endpoints })

theorem elusive_fickle (supply : Nat → String) (before : UnreliableRegistry)
    (request : Call) :
    (fickle supply).answers before request
      (elusive supply request before).1
      (elusive supply request before).2 := by
  cases request with
  | application request => exact ⟨UnreliableStore.elusive_fickle supply _ request, rfl⟩
  | endpoint request => exact ⟨UnreliableStore.elusive_fickle supply _ request, rfl⟩

end UnreliableRegistry

variable {β : Type} {registry : UnreliableRegistry}

theorem ensures_onApplications {program : Program (StoreSignature Application) β}
    {suits : β → UnreliableStore Application → Prop}
    (ensures : program.Ensures (UnreliableStore.fickle supply) suits registry.applications) :
    (onApplications program).Ensures (UnreliableRegistry.fickle supply)
      (fun value reached => suits value reached.applications ∧
        reached.endpoints = registry.endpoints) registry :=
  ensures.translate_part UnreliableRegistry.applications UnreliableRegistry.endpoints
    fun _ _ _ => ⟨trivial, fun _ _ answered => answered⟩

theorem ensures_onEndpoints {program : Program (StoreSignature Endpoint) β}
    {suits : β → UnreliableStore Endpoint → Prop}
    (ensures : program.Ensures (UnreliableStore.fickle supply) suits registry.endpoints) :
    (onEndpoints program).Ensures (UnreliableRegistry.fickle supply)
      (fun value reached => suits value reached.endpoints ∧
        reached.applications = registry.applications) registry :=
  ensures.translate_part UnreliableRegistry.endpoints UnreliableRegistry.applications
    fun _ _ _ => ⟨trivial, fun _ _ answered => answered⟩

end FieldSurvey.Registry
