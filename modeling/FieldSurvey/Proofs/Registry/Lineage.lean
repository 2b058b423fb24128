import FieldSurvey.Proofs.Registry.Session
import FieldSurvey.Proofs.Registry.Store
import Mathlib.Data.List.Infix
import Mathlib.Data.List.Nodup
import Mathlib.Data.List.Range

/-!
# The lineage of an entity

What a store holds follows from the trace of a session: the last entity that was stored
under an id is the one that is found there.  Every entity that was ever stored is known by
its generation.  The lineage of an entity tells how each of its values came from the one
before.
-/

namespace FieldSurvey.Registry

variable {ι α : Type} [Entity α]

/-! ## The ledger -/

/-- What a store holds is told by the trace, and the writes have the generations that were
supplied, in that order. -/
structure Ledger (supply : Nat → String) (store : Store α) (trace : List (Exchange ι α)) :
    Prop where
  generations_eq : (written trace).map Entity.generation =
    (List.range store.writes).map fun count => some (supply count)
  get?_eq : ∀ id, store.get? id = (writesTo id trace).getLast?.map Prod.snd

namespace Ledger

variable {supply : Nat → String} {store : Store α} {trace : List (Exchange ι α)}

theorem empty (supply : Nat → String) : Ledger supply ({} : Store α) ([] : List (Exchange ι α)) :=
  ⟨rfl, fun _ => rfl⟩

/-- Every call is entered. -/
theorem call [LawfulEntity α] (ledger : Ledger supply store trace) (client : ι)
    (request : StoreCall α) :
    Ledger supply (Store.handler supply request store).2
      (trace ++ [⟨client, request, (Store.handler supply request store).1⟩]) := by
  rcases handler_cases supply store client request with ⟨entity, wrote, after⟩ | ⟨quiet, after⟩
  · rw [after]
    constructor
    · rw [written, List.filterMap_append, List.map_append]
      simp only [List.filterMap_cons, wrote, List.filterMap_nil, List.map_cons, List.map_nil,
        Store.write_fst, LawfulEntity.generation_inGeneration]
      simp only [Store.write, List.range_succ, List.map_append, List.map_cons, List.map_nil,
        ← ledger.generations_eq, written]
    · intro id
      rw [Store.get?_write, writesTo_concat id trace wrote, Store.write_fst,
        LawfulEntity.id_inGeneration]
      split
      · simp
      · exact ledger.get?_eq id
  · rw [after]
    constructor
    · simpa [written, quiet] using ledger.generations_eq
    · intro id
      rw [writesTo_concat_of_quiet id trace quiet]
      exact ledger.get?_eq id

/-- Whatever was stored is in a generation. -/
theorem generation_of_mem (ledger : Ledger supply store trace) {stored : α}
    (member : stored ∈ written trace) :
    ∃ generation, Entity.generation stored = some generation := by
  have known : Entity.generation stored ∈ (written trace).map Entity.generation :=
    List.mem_map_of_mem member
  rw [ledger.generations_eq] at known
  rcases List.mem_map.mp known with ⟨count, _, same⟩
  exact ⟨supply count, same.symm⟩

/-- What is found under an id was stored there last. -/
theorem writesTo_of_get? (ledger : Ledger supply store trace) {id : String} {stored : α}
    (there : store.get? id = some stored) :
    ∃ earlier former, writesTo id trace = earlier ++ [(former, stored)] := by
  rw [ledger.get?_eq id] at there
  rcases Option.map_eq_some_iff.mp there with ⟨⟨former, value⟩, last, rfl⟩
  rcases List.getLast?_eq_some_iff.mp last with ⟨earlier, writes⟩
  exact ⟨earlier, former, writes⟩

/-- Under an id that is taken, something is found. -/
theorem get?_of_mem (ledger : Ledger supply store trace) {id : String} {write : ι × α}
    (member : write ∈ writesTo id trace) : ∃ stored, store.get? id = some stored := by
  rw [ledger.get?_eq id]
  cases last : (writesTo id trace).getLast? with
  | none =>
      rw [List.getLast?_eq_none_iff.mp last] at member
      simp at member
  | some write => exact ⟨write.2, rfl⟩

/-- If no generation is supplied twice, two stored entities of one generation are the
same. -/
theorem eq_of_generation_eq (ledger : Ledger supply store trace)
    (fresh : Function.Injective supply) {stored other : α} (member : stored ∈ written trace)
    (otherMember : other ∈ written trace)
    (same : Entity.generation stored = Entity.generation other) : stored = other := by
  have nodup : ((written trace).map Entity.generation).Nodup := by
    rw [ledger.generations_eq]
    apply List.Nodup.map
    · intro first second equal
      exact fresh (Option.some.inj equal)
    · exact List.nodup_range
  exact List.inj_on_of_nodup_map nodup member otherMember same

end Ledger

theorem mem_written_of_mem_writesTo {id : String} {trace : List (Exchange ι α)}
    {write : ι × α} (member : write ∈ writesTo id trace) : write.2 ∈ written trace := by
  rcases mem_writesTo.mp member with ⟨_, exchange, inTrace, _, wrote⟩
  exact List.mem_filterMap.mpr ⟨exchange, inTrace, wrote⟩

/-! ## Lineages -/

/-- How the values under an id came one from the other: the first one was added, and each
of the others is the change of a client, as it was applied the last time, of the one
before. -/
inductive Lineage (clients : ι → Client α) (applied : ι → Nat) (id : String) :
    List (ι × α) → Prop where
  | nothing : Lineage clients applied id []
  | added {client : ι} {entity : α} (generation : String)
      (adds : clients client = .add entity) (sameId : Entity.id entity = id) :
      Lineage clients applied id [(client, Entity.inGeneration (some generation) entity)]
  | revised {earlier : List (ι × α)} {former client : ι} {current entity : α}
      {attempts count : Nat} {change : Nat → α → Option α} (generation : String)
      (lineage : Lineage clients applied id (earlier ++ [(former, current)]))
      (revises : clients client = .revise id attempts change)
      (latest : applied client = count + 1) (changes : change count current = some entity) :
      Lineage clients applied id (earlier ++ [(former, current)] ++
        [(client, Entity.inGeneration (some generation) entity)])

/-- A lineage depends only on how often those who stored something applied their
changes. -/
theorem Lineage.congr {clients : ι → Client α} {applied other : ι → Nat} {id : String}
    {writes : List (ι × α)} (lineage : Lineage clients applied id writes)
    (same : ∀ write ∈ writes, other write.1 = applied write.1) :
    Lineage clients other id writes := by
  induction lineage with
  | nothing => exact nothing
  | added generation adds sameId => exact added generation adds sameId
  | revised generation _ revises latest changes ih =>
      apply revised generation _ revises _ changes
      · apply ih
        intro write member
        exact same write (List.mem_append_left _ member)
      · rw [← latest]
        exact same _ (List.mem_append_right _ (List.mem_singleton_self _))

section Explained

variable [DecidableEq ι]

/-- Everything that was stored has a lineage. -/
def Explained (clients : ι → Client α) (trace : List (Exchange ι α)) : Prop :=
  ∀ id, Lineage clients (fun client => applications client trace) id (writesTo id trace)

/-- Whoever has stored nothing may make a call without an effect on any lineage. -/
theorem Lineage.concat {clients : ι → Client α} {trace : List (Exchange ι α)} {id : String}
    {exchange : Exchange ι α} (idle : writesBy exchange.client trace = [])
    (lineage : Lineage clients (fun client => applications client trace) id (writesTo id trace)) :
    Lineage clients (fun client => applications client (trace ++ [exchange])) id
      (writesTo id trace) := by
  apply lineage.congr
  rintro ⟨writer, stored⟩ member
  apply applications_concat_of_ne
  rintro rfl
  rcases mem_writesTo.mp member with ⟨_, earlier, inTrace, sameClient, wrote⟩
  have stores : stored ∈ writesBy exchange.client trace :=
    List.mem_filterMap.mpr
      ⟨earlier, List.mem_filter.mpr ⟨inTrace, by simpa using sameClient⟩, wrote⟩
  rw [idle] at stores
  exact List.not_mem_nil stores

theorem Explained.concat_of_quiet {clients : ι → Client α} {trace : List (Exchange ι α)}
    {exchange : Exchange ι α} (explained : Explained clients trace)
    (idle : writesBy exchange.client trace = []) (quiet : exchange.written? = none) :
    Explained clients (trace ++ [exchange]) := by
  intro id
  rw [writesTo_concat_of_quiet id trace quiet]
  exact (explained id).concat idle

/-- A write that continues the lineage of its entity leaves the others alone. -/
theorem Explained.concat {clients : ι → Client α} {trace : List (Exchange ι α)}
    {exchange : Exchange ι α} {stored : α} (explained : Explained clients trace)
    (idle : writesBy exchange.client trace = []) (wrote : exchange.written? = some stored)
    (continues : Lineage clients (fun client => applications client (trace ++ [exchange]))
      (Entity.id stored) (writesTo (Entity.id stored) trace ++ [(exchange.client, stored)])) :
    Explained clients (trace ++ [exchange]) := by
  intro id
  rw [writesTo_concat id trace wrote]
  by_cases same : Entity.id stored = id
  · subst same
    simpa using continues
  · rw [if_neg same]
    exact (explained id).concat idle

end Explained

end FieldSurvey.Registry
