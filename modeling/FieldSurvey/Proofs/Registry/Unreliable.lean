import FieldSurvey.Proofs.Registry.Persistence
import Mathlib.Data.List.Dedup

/-!
# Unreliable stores

Any call of an unreliable store may fail without reaching it.  The store keeps its calls with
its replies, and what came of the entity of an id is told by the last call about it: if that
was refused, the entity stands as it did.
-/

namespace FieldSurvey.Registry

/-- A call of a store with its reply. -/
structure Answered (α : Type) where
  request : StoreCall α
  reply : request.Reply

variable {α : Type} [Entity α]

namespace Answered

/-- The id of the entity that a call is about, if it is about a single one. -/
def id? : Answered α → Option String
  | ⟨.get id, _⟩ => some id
  | ⟨.add entity, _⟩ => some (Entity.id entity)
  | ⟨.update entity, _⟩ => some (Entity.id entity)
  | ⟨.listBy _, _⟩ => none
  | ⟨.list, _⟩ => none

omit [Entity α] in
/-- Whether a call was answered by a fault. -/
def isRefusal : Answered α → Bool
  | ⟨.get _, .error _⟩ => true
  | ⟨.add _, .error _⟩ => true
  | ⟨.update _, .error _⟩ => true
  | ⟨.listBy _, .error _⟩ => true
  | ⟨.list, .error _⟩ => true
  | _ => false

omit [Entity α] in
/-- Whether a call failed.  To be told that an id is taken is no failure. -/
def isFailure : Answered α → Bool
  | ⟨.add _, .error (.conflict _)⟩ => false
  | answered => answered.isRefusal

omit [Entity α] in
theorem isRefusal_of_isFailure {answered : Answered α} (failure : answered.isFailure) :
    answered.isRefusal := by
  unfold isFailure at failure
  split at failure
  · contradiction
  · exact failure

end Answered

/-- The last call about the entity of an id. -/
def lastAbout (id : String) (calls : List (Answered α)) : Option (Answered α) :=
  (calls.filter fun answered => answered.id? = some id).getLast?

theorem lastAbout_concat (id : String) (calls : List (Answered α)) (answered : Answered α) :
    lastAbout id (calls ++ [answered]) =
      if answered.id? = some id then some answered else lastAbout id calls := by
  by_cases about : answered.id? = some id <;> simp [lastAbout, about]

theorem lastAbout_concat_of_ne {id other : String} (calls : List (Answered α))
    {answered : Answered α} (about : answered.id? = some id) (apart : other ≠ id) :
    lastAbout other (calls ++ [answered]) = lastAbout other calls := by
  rw [lastAbout_concat, about, if_neg fun same => apart (Option.some.inj same).symm]

/-- A store and the calls that it was asked. -/
structure UnreliableStore (α : Type) where
  store : Store α := {}
  calls : List (Answered α) := []

namespace UnreliableStore

/-- Whether the last call about the entity of an id was refused. -/
def isRefused (unreliable : UnreliableStore α) (id : String) : Bool :=
  (lastAbout id unreliable.calls).any Answered.isRefusal

/-- Whether the last call about the entity of an id failed. -/
def isFailed (unreliable : UnreliableStore α) (id : String) : Bool :=
  (lastAbout id unreliable.calls).any Answered.isFailure

/-- The ids of the entities of which the last call failed. -/
def failures (unreliable : UnreliableStore α) : List String :=
  (unreliable.calls.filterMap Answered.id?).dedup.filter unreliable.isFailed

/-- Answers a call or lets it fail, as the pattern of faults has it for the call of that
number. -/
def handler (supply : Nat → String) (faults : Nat → Option Fault) :
    Program.Handler (StoreSignature α) (UnreliableStore α) :=
  fun request unreliable =>
    let (reply, store) :=
      Store.answer supply (faults unreliable.calls.length) request unreliable.store
    (reply, { store, calls := unreliable.calls ++ [⟨request, reply⟩] })

variable {before middle after : UnreliableStore α}

theorem isRefused_congr {id : String}
    (same : lastAbout id after.calls = lastAbout id before.calls) :
    after.isRefused id = before.isRefused id := by
  simp only [isRefused, same]

theorem isFailed_congr {id : String}
    (same : lastAbout id after.calls = lastAbout id before.calls) :
    after.isFailed id = before.isFailed id := by
  simp only [isFailed, same]

theorem isRefused_concat {id : String} {answered : Answered α} (about : answered.id? = some id)
    (store : Store α) (calls : List (Answered α)) :
    isRefused { store, calls := calls ++ [answered] } id = answered.isRefusal := by
  simp [isRefused, lastAbout_concat, about]

theorem isFailed_concat {id : String} {answered : Answered α} (about : answered.id? = some id)
    (store : Store α) (calls : List (Answered α)) :
    isFailed { store, calls := calls ++ [answered] } id = answered.isFailure := by
  simp [isFailed, lastAbout_concat, about]

/-- Only what was refused has failed. -/
theorem isRefused_of_isFailed {id : String} (failed : after.isFailed id) : after.isRefused id := by
  obtain ⟨answered, last, failure⟩ := (Option.any_eq_true _ _).mp failed
  exact (Option.any_eq_true _ _).mpr ⟨answered, last, Answered.isRefusal_of_isFailure failure⟩

theorem mem_failures {id : String} : id ∈ after.failures ↔ after.isFailed id := by
  simp only [failures, List.mem_filter, List.mem_dedup, and_iff_right_iff_imp]
  intro failed
  obtain ⟨answered, last, -⟩ := (Option.any_eq_true _ _).mp failed
  obtain ⟨member, about⟩ := List.mem_filter.mp (List.mem_of_getLast? last)
  exact List.mem_filterMap.mpr ⟨answered, member, of_decide_eq_true about⟩

end UnreliableStore

/-! ## Treatments -/

/-- An intent that is carried out under some ids only. -/
def Intent.within (reach : String → Bool) (intent : Intent α) : Intent α :=
  fun id present => if reach id then intent id present else none

open UnreliableStore in
/-- What a series of calls makes of an unreliable store.  They are about the entities of
some ids, and carry out an intent on each of them, unless they were refused in the end. -/
structure Treated (intent : Intent α) (ids : List String) (before after : UnreliableStore α)
    (failures : Nat) : Prop where
  wellKept : after.store.WellKept
  untouched : ∀ id ∉ ids, lastAbout id after.calls = lastAbout id before.calls
  becomes : before.store.Becomes
    (intent.within fun id => ids.contains id && !after.isRefused id) after.store
  failures_eq : ids.countP after.isFailed = failures

namespace Treated

variable {intent : Intent α} {before middle after : UnreliableStore α}
  {ids front back : List String}
  {failures fewer more : Nat}

theorem nil (kept : before.store.WellKept) : Treated intent [] before before 0 where
  wellKept := kept
  untouched _ _ := rfl
  becomes := (Store.Becomes.refl _).congr fun id => by simp [Intent.idle, Intent.within]
  failures_eq := rfl

/-- What was not treated stands as it did. -/
theorem get?_of_not_mem (treated : Treated intent ids before after failures) {id : String}
    (absent : id ∉ ids) : after.store.get? id = before.store.get? id := by
  apply treated.becomes.kept
  simp [Intent.within, absent]

/-- What was refused stands as it did. -/
theorem get?_of_isRefused (treated : Treated intent ids before after failures) {id : String}
    (refused : after.isRefused id) : after.store.get? id = before.store.get? id := by
  apply treated.becomes.kept
  simp [Intent.within, refused]

/-- Treatments of different entities combine. -/
theorem append (first : Treated intent front before middle fewer)
    (second : Treated intent back middle after more) (apart : ∀ id ∈ front, id ∉ back) :
    Treated intent (front ++ back) before after (fewer + more) where
  wellKept := second.wellKept
  untouched := by
    intro id absent
    rw [List.mem_append, not_or] at absent
    rw [second.untouched id absent.2, first.untouched id absent.1]
  becomes := by
    refine (first.becomes.trans second.becomes fun id => ?_).congr fun id => ?_
    · by_cases inFront : id ∈ front
      · right
        intro present
        simp [Intent.within, apart id inFront]
      · left
        simp [Intent.within, inFront]
    · by_cases inFront : id ∈ front
      · have same := UnreliableStore.isRefused_congr (second.untouched id (apart id inFront))
        simp [Intent.orElse, Intent.within, inFront, apart id inFront, same]
      · simp [Intent.orElse, Intent.within, inFront]
  failures_eq := by
    rw [List.countP_append, second.failures_eq, ← first.failures_eq]
    congr 1
    apply List.countP_congr
    intro id inFront
    rw [UnreliableStore.isFailed_congr (second.untouched id (apart id inFront))]

variable {id : String}

/-- An entity that was refused in the end. -/
theorem of_isRefused (kept : before.store.WellKept) (same : after.store = before.store)
    (others : ∀ other, other ≠ id → lastAbout other after.calls = lastAbout other before.calls)
    (refused : after.isRefused id) :
    Treated intent [id] before after (if after.isFailed id then 1 else 0) where
  wellKept := same ▸ kept
  untouched other absent := others other (by simpa using absent)
  becomes := by
    rw [same]
    refine (Store.Becomes.refl _).congr fun other => ?_
    by_cases this : other = id <;> simp [Intent.idle, Intent.within, this, refused]
  failures_eq := by simp [List.countP_cons]

/-- An entity on which the intent was carried out. -/
theorem of_not_isRefused (kept : after.store.WellKept)
    (others : ∀ other, other ≠ id → lastAbout other after.calls = lastAbout other before.calls)
    (accepted : after.isRefused id = false)
    (becomes : before.store.Becomes (Intent.only id (intent id)) after.store) :
    Treated intent [id] before after 0 where
  wellKept := kept
  untouched other absent := others other (by simpa using absent)
  becomes := by
    refine becomes.congr fun other => ?_
    by_cases this : other = id <;> simp [Intent.only, Intent.within, this, accepted]
  failures_eq := by
    have fine : after.isFailed id = false := by
      by_contra failed
      rw [Bool.not_eq_false] at failed
      rw [UnreliableStore.isRefused_of_isFailed failed] at accepted
      contradiction
    simp [fine]

/-- Calls that came to nothing may precede a treatment of the entities that they were
about. -/
theorem of_preceded (treated : Treated intent ids middle after failures)
    (same : middle.store = before.store)
    (others : ∀ id ∉ ids, lastAbout id middle.calls = lastAbout id before.calls) :
    Treated intent ids before after failures where
  wellKept := treated.wellKept
  untouched id absent := (treated.untouched id absent).trans (others id absent)
  becomes := same ▸ treated.becomes
  failures_eq := treated.failures_eq

/-- What a discoverer owns remains its own, if the intent leaves owners alone. -/
theorem isOwned [LawfulEntity α] (treated : Treated intent ids before after failures)
    (keeps : ∀ ⦃id former entity⦄, intent id (some former) = some entity →
      Entity.discovererId entity = Entity.discovererId former) {discovererId : String}
    (owned : Store.IsOwned discovererId (before.store.get? id)) :
    Store.IsOwned discovererId (after.store.get? id) := by
  obtain ⟨former, present, isOwn⟩ := Store.isOwned_iff.mp owned
  have here := treated.becomes id
  rw [present] at here
  split at here
  · exact Store.isOwned_iff.mpr ⟨former, here, isOwn⟩
  · rename_i entity intended
    obtain ⟨generation, stored⟩ := here
    have sameOwner : Entity.discovererId entity = Entity.discovererId former := by
      unfold Intent.within at intended
      split at intended
      · exact keeps intended
      · contradiction
    rw [stored]
    simp [sameOwner, isOwn]

/-- The failures of a treatment are those that its calls tell of. -/
theorem length_failures (treated : Treated intent ids before after failures) (nodup : ids.Nodup)
    (fresh : ∀ id, lastAbout id before.calls = none) : after.failures.length = failures := by
  have inIds : ∀ id, after.isFailed id → id ∈ ids := by
    intro id failed
    by_contra absent
    have silent := (treated.untouched id absent).trans (fresh id)
    simp [UnreliableStore.isFailed, silent] at failed
  have same : after.failures.Perm (ids.filter after.isFailed) := by
    refine (List.perm_ext_iff_of_nodup ?_ (nodup.filter _)).mpr fun id => ?_
    · exact (List.nodup_dedup _).filter _
    · rw [UnreliableStore.mem_failures, List.mem_filter]
      exact ⟨fun failed => ⟨inIds id failed, failed⟩, And.right⟩
  rw [same.length_eq, ← List.countP_eq_length_filter, treated.failures_eq]

end Treated

/-! ## Revisions -/

section Revisions

variable {supply : Nat → String} {faults : Nat → Option Fault}

theorem handler_of_fault {fault : Fault} {store : Store α} {calls : List (Answered α)}
    (request : StoreCall α) (fails : faults calls.length = some fault) :
    UnreliableStore.handler supply faults request { store, calls } =
      (Rehearsal.DisturbedStore.refuse fault request,
        { store
          calls := calls ++ [⟨request, Rehearsal.DisturbedStore.refuse fault request⟩] }) := by
  simp [UnreliableStore.handler, Store.answer, fails]

theorem handler_of_reached {store : Store α} {calls : List (Answered α)} (request : StoreCall α)
    (reached : faults calls.length = none) :
    UnreliableStore.handler supply faults request { store, calls } =
      ((Store.handler supply request store).1,
        { store := (Store.handler supply request store).2
          calls := calls ++ [⟨request, (Store.handler supply request store).1⟩] }) := by
  simp [UnreliableStore.handler, Store.answer, reached]

variable {intent : Intent α} {id : String} {before after : UnreliableStore α}

/-- What comes of the revision of an entity that is there. -/
structure Revised (intent : Intent α) (id : String) (before after : UnreliableStore α)
    (revision : Revision α) : Prop where
  found : revision.result ≠ .ok none
  treated : Treated intent [id] before after (if revision.result.isOk then 0 else 1)
  failed_of_isRefused : after.isRefused id → after.isFailed id

/-- A revision that was refused in the end. -/
theorem Revised.of_isFailed (kept : before.store.WellKept) (same : after.store = before.store)
    (others : ∀ other, other ≠ id → lastAbout other after.calls = lastAbout other before.calls)
    (failed : after.isFailed id) (fault : Fault) (applied : Nat) (changed : Bool) :
    Revised intent id before after ⟨.error fault, applied, changed⟩ where
  found := by simp
  treated := by
    have refused := UnreliableStore.isRefused_of_isFailed failed
    have treated : Treated intent [id] before after _ := .of_isRefused kept same others refused
    rwa [if_pos failed] at treated
  failed_of_isRefused _ := failed

/-- A revision that was carried out. -/
theorem Revised.of_not_isRefused (kept : after.store.WellKept)
    (others : ∀ other, other ≠ id → lastAbout other after.calls = lastAbout other before.calls)
    (accepted : after.isRefused id = false)
    (becomes : before.store.Becomes (Intent.only id (intent id)) after.store) (stored : α)
    (applied : Nat) (changed : Bool) :
    Revised intent id before after ⟨.ok (some stored), applied, changed⟩ where
  found := by simp
  treated := Treated.of_not_isRefused kept others accepted becomes
  failed_of_isRefused refused := by
    rw [accepted] at refused
    contradiction

theorem Revised.of_retried {middle : UnreliableStore α} {revision : Revision α}
    (revised : Revised intent id middle after revision) (same : middle.store = before.store)
    (others : ∀ other, other ≠ id → lastAbout other middle.calls = lastAbout other before.calls) :
    Revised intent id before after revision :=
  ⟨revised.found, revised.treated.of_preceded same fun other absent =>
    others other (by simpa using absent), revised.failed_of_isRefused⟩

/-- Where nothing is intended of an entity its store may stay as it is. -/
theorem becomes_only_of_none {store : Store α} (nothing : intent id (store.get? id) = none) :
    store.Becomes (Intent.only id (intent id)) store := by
  refine (Store.Becomes.refl store).congr fun other => ?_
  by_cases this : other = id
  · subst this
    simp [Intent.idle, Intent.only, nothing]
  · simp [Intent.idle, Intent.only, this]

/-- A write carries out what is intended of its entity. -/
theorem becomes_only_of_write [LawfulEntity α] {store : Store α} {entity : α}
    (itsId : Entity.id entity = id) (intended : intent id (store.get? id) = some entity) :
    store.Becomes (Intent.only id (intent id)) (store.write supply entity).2 := by
  refine (Store.becomes_write supply store entity).congr fun other => ?_
  by_cases this : other = id
  · subst this
    simp [Intent.only, itsId, intended]
  · simp [Intent.only, itsId, this]

theorem lastAbout_update (calls : List (Answered α)) {entity : α} (itsId : Entity.id entity = id)
    (current : α) (reply : Except Fault α) {other : String} (apart : other ≠ id) :
    lastAbout other (calls ++ [⟨.get id, .ok (some current)⟩] ++ [⟨.update entity, reply⟩]) =
      lastAbout other calls := by
  have about : (Answered.mk (.update entity) reply).id? = some id := congrArg some itsId
  rw [lastAbout_concat_of_ne _ about apart]
  exact lastAbout_concat_of_ne _ rfl apart

/-- However its calls fail, a revision writes its entity as intended, or else not at all. -/
theorem run_attempt [LawfulEntity α] {change : α → Option α} (keeps : KeepsIdentity change)
    {current : α} (intended : intent id (some current) = change current) (limit applied : Nat)
    (changed : Bool) (attempts : Nat) (kept : before.store.WellKept)
    (present : before.store.get? id = some current)
    (exhausted : attempts = 0 → before.isFailed id) :
    Revised intent id before
      ((Revision.attempt id limit (fun _ => change) applied changed attempts).run
        (UnreliableStore.handler supply faults) before).2
      ((Revision.attempt id limit (fun _ => change) applied changed attempts).run
        (UnreliableStore.handler supply faults) before).1 := by
  induction attempts generalizing before applied changed with
  | zero => exact .of_isFailed kept rfl (fun _ _ => rfl) (exhausted rfl) _ _ _
  | succ attempts ih =>
      rcases before with ⟨store, calls⟩
      simp only [Revision.attempt, Program.run_call]
      cases reads : faults calls.length with
      | some fault =>
          simp only [handler_of_fault _ reads, Rehearsal.DisturbedStore.refuse, Program.run_done]
          apply Revised.of_isFailed kept
          · rfl
          · exact fun _ => lastAbout_concat_of_ne _ rfl
          · exact UnreliableStore.isFailed_concat rfl _ _
      | none =>
          simp only [handler_of_reached _ reads, Store.handler_get, present]
          cases difference : change current with
          | none =>
              simp only [Program.run_done]
              apply Revised.of_not_isRefused
              · exact kept
              · exact fun _ => lastAbout_concat_of_ne _ rfl
              · exact UnreliableStore.isRefused_concat rfl _ _
              · exact becomes_only_of_none (by rw [present, intended, difference])
          | some entity =>
              obtain ⟨sameId, sameGeneration⟩ := keeps difference
              have itsId : Entity.id entity = id := sameId.trans (kept.id_of_get? present)
              have about : ∀ reply, (Answered.mk (.update entity) reply).id? = some id :=
                fun reply => congrArg some itsId
              simp only [Program.run_call]
              cases writes :
                faults (calls ++ [Answered.mk (.get id) (.ok (some current))]).length with
              | some fault =>
                  have failed := UnreliableStore.isFailed_concat (about (.error fault)) store
                    (calls ++ [⟨.get id, .ok (some current)⟩])
                  simp only [handler_of_fault _ writes, Rehearsal.DisturbedStore.refuse]
                  by_cases again : fault.isRetryable = true
                  · simp only [again, if_true]
                    refine (ih (applied + 1) true ?_ ?_ ?_).of_retried ?_ ?_
                    · exact kept
                    · exact present
                    · exact fun _ => failed
                    · rfl
                    · exact fun _ => lastAbout_update calls itsId current _
                  · simp only [again, Bool.false_eq_true, if_false, Program.run_done]
                    apply Revised.of_isFailed kept
                    · rfl
                    · exact fun _ => lastAbout_update calls itsId current _
                    · exact failed
              | none =>
                  have accepted := UnreliableStore.isRefused_concat
                    (about (.ok (store.write supply entity).1)) (store.write supply entity).2
                    (calls ++ [⟨.get id, .ok (some current)⟩])
                  have stands : store.get? (Entity.id entity) = some current := itsId ▸ present
                  have updated : store.update supply entity = _ := Store.update_of_accepts stands
                    (Store.accepts_of_generation_eq sameGeneration)
                  simp only [handler_of_reached _ writes, Store.handler_update, updated,
                    Program.run_done]
                  apply Revised.of_not_isRefused
                  · exact kept.write supply entity
                  · exact fun _ => lastAbout_update calls itsId current _
                  · exact accepted
                  · exact becomes_only_of_write itsId (by rw [present, intended, difference])

variable (supply faults) in
theorem run_revise_unreliable [LawfulEntity α] {change : α → Option α}
    (keeps : KeepsIdentity change) {current : α}
    (intended : intent id (some current) = change current) (attempts : Nat)
    (kept : before.store.WellKept) (present : before.store.get? id = some current) :
    ∃ revision after,
      (Revision.revise id attempts change).run (UnreliableStore.handler supply faults) before =
        (revision, after) ∧ Revised intent id before after revision := by
  refine ⟨_, _, rfl, run_attempt keeps intended _ _ _ _ kept present fun none => ?_⟩
  omega

/-! ## Additions -/

/-- How many failures a refused addition counts for. -/
def additionFailures : Fault → Nat
  | .conflict _ => 0
  | _ => 1

variable (supply faults) in
/-- An addition stores its entity as intended, if nothing stands in its place, or else is
refused. -/
theorem handler_add [LawfulEntity α] (entity : α)
    (intended : intent (Entity.id entity) none = some entity) (kept : before.store.WellKept) :
    ∃ reply after, UnreliableStore.handler supply faults (.add entity) before = (reply, after) ∧
      match reply with
      | .ok _ => Treated intent [Entity.id entity] before after 0 ∧
          ∃ generation, after.store.get? (Entity.id entity) =
            some (Entity.inGeneration (some generation) entity)
      | .error fault =>
          Treated intent [Entity.id entity] before after (additionFailures fault) := by
  rcases before with ⟨store, calls⟩
  have others : ∀ reply other, other ≠ Entity.id entity →
      lastAbout other (calls ++ [⟨.add entity, reply⟩]) = lastAbout other calls :=
    fun reply other => lastAbout_concat_of_ne calls rfl
  have refused : ∀ fault, Treated intent [Entity.id entity] ⟨store, calls⟩
      ⟨store, calls ++ [⟨.add entity, .error fault⟩]⟩ (additionFailures fault) := by
    intro fault
    let after : UnreliableStore α := ⟨store, calls ++ [⟨.add entity, .error fault⟩]⟩
    have isRefused : after.isRefused (Entity.id entity) = true :=
      UnreliableStore.isRefused_concat rfl store calls
    have counted :
        (if after.isFailed (Entity.id entity) then 1 else 0) = additionFailures fault := by
      rw [show after.isFailed (Entity.id entity) = _ from
        UnreliableStore.isFailed_concat rfl store calls]
      cases fault <;> rfl
    rw [← counted]
    exact .of_isRefused kept rfl (others _) isRefused
  cases adds : faults calls.length with
  | some fault => exact ⟨_, _, handler_of_fault _ adds, refused fault⟩
  | none =>
      refine ⟨_, _, handler_of_reached _ adds, ?_⟩
      cases stands : store.get? (Entity.id entity) with
      | some stored =>
          simp only [Store.handler_add, Store.add_of_taken stands]
          exact refused _
      | none =>
          have written := (Store.get?_write supply store entity (Entity.id entity)).trans
            (if_pos rfl)
          simp only [Store.handler_add, Store.add_of_free stands]
          refine ⟨?_, supply store.writes, written⟩
          apply Treated.of_not_isRefused
          · exact kept.write supply entity
          · exact others _
          · exact UnreliableStore.isRefused_concat rfl _ _
          · exact becomes_only_of_write rfl (by rw [stands, intended])

end Revisions

end FieldSurvey.Registry
