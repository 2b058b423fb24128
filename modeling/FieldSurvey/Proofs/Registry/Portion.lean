import FieldSurvey.Proofs.Registry.Confinement
import FieldSurvey.Proofs.Registry.Resumption

/-!
# The portion of a discoverer

To a discoverer that keeps to what is its own, a store looks like any other one in which it owns
the same entities and the same of its derived ids are taken.  Such a store is a portion of the
first one.  The calls of the discoverer are answered alike by both and leave a portion again.
Calls that other discoverers make to the whole leave one too, as long as these derive other ids.
-/

namespace FieldSurvey.Registry

open Model (Application Endpoint)

namespace Store

variable {α : Type}

/-! ## What a write makes of a listing -/

theorem putInto_of_free {id : String} {entity : α} {entries : List (String × α)}
    (free : entries.lookup id = none) : putInto id entity entries = entries ++ [(id, entity)] := by
  induction entries with
  | nil => rfl
  | cons first rest ih =>
      rw [lookup_cons_ite] at free
      by_cases head : first.1 = id
      · simp [head] at free
      · rw [if_neg head] at free
        rw [putInto, if_neg head, ih free, List.cons_append]

theorem putInto_of_taken {id : String} {entity former : α} {entries : List (String × α)}
    (nodup : (entries.map Prod.fst).Nodup) (taken : entries.lookup id = some former) :
    putInto id entity entries =
      entries.map fun entry => if entry.1 = id then (id, entity) else entry := by
  induction entries with
  | nil => contradiction
  | cons first rest ih =>
      rw [List.map_cons, List.nodup_cons] at nodup
      rw [lookup_cons_ite] at taken
      by_cases head : first.1 = id
      · have others : ∀ entry ∈ rest, (if entry.1 = id then (id, entity) else entry) = entry := by
          intro entry member
          apply if_neg
          rintro rfl
          exact nodup.1 (head ▸ List.mem_map_of_mem member)
        rw [putInto, if_pos head, List.map_cons, if_pos head, List.map_congr_left others,
          List.map_id']
      · rw [if_neg head] at taken
        rw [putInto, if_neg head, List.map_cons, if_neg head, ih nodup.2 taken]

variable [Entity α]

/-- What stands in the place of a former entity once another one is written. -/
def replacedBy (entity former : α) : α :=
  if Entity.id former = Entity.id entity then entity else former

variable {store : Store α} {supply : Nat → String} {entity former : α}

theorem WellKept.mem_ownedBy (kept : store.WellKept) {discovererId : String} :
    entity ∈ store.ownedBy discovererId ↔
      store.get? (Entity.id entity) = some entity ∧
        Entity.discovererId entity = some discovererId := by
  rw [ownedBy, List.mem_filter, kept.mem_toList, beq_iff_eq]

theorem toList_write_of_free (free : store.get? (Entity.id entity) = none) :
    (store.write supply entity).2.toList = store.toList ++ [(store.write supply entity).1] := by
  simp only [toList, write, putInto_of_free free, List.map_append, List.map_cons, List.map_nil]

section Lawful

variable [LawfulEntity α]

theorem toList_write_of_taken (kept : store.WellKept)
    (taken : store.get? (Entity.id entity) = some former) :
    (store.write supply entity).2.toList =
      store.toList.map (replacedBy (store.write supply entity).1) := by
  simp only [toList, write, putInto_of_taken kept.keys_nodup taken, List.map_map]
  apply List.map_congr_left
  intro entry member
  simp only [Function.comp_apply, replacedBy, kept.id_eq_key entry member,
    LawfulEntity.id_inGeneration]
  split <;> rfl

theorem ownedBy_write_of_free (discovererId : String)
    (free : store.get? (Entity.id entity) = none) :
    (store.write supply entity).2.ownedBy discovererId = store.ownedBy discovererId ++
      if Entity.discovererId entity = some discovererId then [(store.write supply entity).1]
      else [] := by
  rw [ownedBy, toList_write_of_free free, List.filter_append]
  congr 1
  by_cases own : Entity.discovererId entity = some discovererId <;> simp [write_fst, own]

theorem ownedBy_write_of_taken (kept : store.WellKept) (discovererId : String)
    (taken : store.get? (Entity.id entity) = some former)
    (sameOwner : Entity.discovererId entity = Entity.discovererId former) :
    (store.write supply entity).2.ownedBy discovererId =
      (store.ownedBy discovererId).map (replacedBy (store.write supply entity).1) := by
  rw [ownedBy, toList_write_of_taken kept taken, List.filter_map, ownedBy]
  congr 1
  apply List.filter_congr
  intro stored member
  rw [kept.mem_toList] at member
  simp only [Function.comp_apply, replacedBy, write_fst, LawfulEntity.id_inGeneration]
  by_cases same : Entity.id stored = Entity.id entity
  · have isFormer : stored = former := Option.some.inj (member.symm.trans (same ▸ taken))
    rw [if_pos same, LawfulEntity.discovererId_inGeneration, sameOwner, isFormer]
  · rw [if_neg same]

end Lawful

/-! ## What a confined call writes -/

/-- What a discoverer that keeps to what is its own writes, if it writes anything. -/
theorem Confines.handler_cases [LawfulEntity α] [NaturedEntity α] {discovererId : String}
    {derived : List String} {request : StoreCall α}
    (confined : store.Confines discovererId derived request) (supply : Nat → String) :
    (Store.handler supply request store).2 = store ∨
    ∃ entity, (Store.handler supply request store).2 = (store.write supply entity).2 ∧
      Entity.discovererId entity = some discovererId ∧
      (store.get? (Entity.id entity) = none ∧ Entity.id entity ∈ derived ∨
        ∃ former, store.get? (Entity.id entity) = some former ∧
          Entity.discovererId former = some discovererId) := by
  rcases answer_cases supply store none request with same | ⟨entity, wrote, ⟨rfl, free⟩ | rfl⟩
  · exact Or.inl same
  · exact Or.inr ⟨entity, wrote, confined.1, Or.inl ⟨free, confined.2⟩⟩
  · obtain ⟨former, present, owned, same⟩ := confined
    exact Or.inr ⟨entity, wrote, (NaturedEntity.discovererId_of_nature same).trans owned,
      Or.inr ⟨former, present, owned⟩⟩

/-- What is not the discoverer's own stands after its call exactly if it stood before. -/
theorem Confines.get?_eq_some_iff [LawfulEntity α] [NaturedEntity α] {discovererId : String}
    {derived : List String} {request : StoreCall α}
    (confined : store.Confines discovererId derived request) (supply : Nat → String) {id : String}
    {stored : α} (foreign : Entity.discovererId stored ≠ some discovererId) :
    (Store.handler supply request store).2.get? id = some stored ↔
      store.get? id = some stored := by
  rcases confined.handler_cases supply with same | ⟨entity, wrote, own, aside⟩
  · rw [same]
  · rw [wrote, get?_write]
    split
    · rename_i same
      subst same
      constructor
      · intro written
        rw [write_fst, Option.some.injEq] at written
        rw [← written, LawfulEntity.discovererId_inGeneration] at foreign
        exact absurd own foreign
      · intro stands
        rcases aside with ⟨free, -⟩ | ⟨former, present, owned⟩
        · rw [free] at stands
          contradiction
        · rw [present, Option.some.injEq] at stands
          exact absurd (stands ▸ owned) foreign
    · rfl

/-! ## Portions -/

/-- A store that looks to a discoverer as the whole does: what it owns is the same, and so are
the derived ids that are taken. -/
structure Portion (discovererId : String) (derived : List String) (whole part : Store α) :
    Prop where
  whole_wellKept : whole.WellKept
  part_wellKept : part.WellKept
  ownedBy_eq : part.ownedBy discovererId = whole.ownedBy discovererId
  taken_eq : ∀ id ∈ derived, (part.get? id).isSome = (whole.get? id).isSome

namespace Portion

variable {discovererId : String} {derived : List String} {whole part : Store α}

/-- How writes are counted does not matter. -/
theorem recounted (kept : store.WellKept) (writes : Nat) :
    Portion discovererId derived store { store with writes } :=
  ⟨kept, ⟨kept.keys_nodup, kept.id_eq_key⟩, rfl, fun _ _ => rfl⟩

/-- What the discoverer owns stands in the whole exactly if it stands in its portion. -/
theorem get?_eq_some_iff (portion : Portion discovererId derived whole part) {id : String}
    {stored : α} (owned : Entity.discovererId stored = some discovererId) :
    part.get? id = some stored ↔ whole.get? id = some stored := by
  have members : stored ∈ part.ownedBy discovererId ↔ _ := portion.part_wellKept.mem_ownedBy
  rw [portion.ownedBy_eq, portion.whole_wellKept.mem_ownedBy] at members
  simp only [owned, and_true] at members
  constructor
  · intro present
    obtain rfl := portion.part_wellKept.id_of_get? present
    exact members.mpr present
  · intro present
    obtain rfl := portion.whole_wellKept.id_of_get? present
    exact members.mp present

/-- Both answer alike to the discoverer about what it owns. -/
theorem get?_eq (portion : Portion discovererId derived whole part) {id : String}
    (owned : IsOwned discovererId (whole.get? id)) : part.get? id = whole.get? id := by
  obtain ⟨stored, present, own⟩ := isOwned_iff.mp owned
  exact ((portion.get?_eq_some_iff own).mpr present).trans present.symm

/-- A derived id is free in a portion exactly if it is free in the whole. -/
theorem get?_eq_none_iff (portion : Portion discovererId derived whole part) {id : String}
    (member : id ∈ derived) : part.get? id = none ↔ whole.get? id = none := by
  have taken := portion.taken_eq id member
  rw [← Option.not_isSome_iff_eq_none, ← Option.not_isSome_iff_eq_none, taken]

variable [LawfulEntity α]

/-- What the discoverer writes in both, where both are alike, is its own in both. -/
theorem write (portion : Portion discovererId derived whole part)
    (alike : part.get? (Entity.id entity) = whole.get? (Entity.id entity))
    (sameOwner : ∀ former, whole.get? (Entity.id entity) = some former →
      Entity.discovererId entity = Entity.discovererId former) {names : Nat → String}
    (same : (part.write names entity).1 = (whole.write supply entity).1) :
    Portion discovererId derived (whole.write supply entity).2 (part.write names entity).2 where
  whole_wellKept := portion.whole_wellKept.write supply entity
  part_wellKept := portion.part_wellKept.write names entity
  ownedBy_eq := by
    cases present : whole.get? (Entity.id entity) with
    | none =>
        rw [ownedBy_write_of_free _ present, ownedBy_write_of_free _ (alike.trans present), same,
          portion.ownedBy_eq]
    | some former =>
        rw [ownedBy_write_of_taken portion.whole_wellKept _ present (sameOwner former present),
          ownedBy_write_of_taken portion.part_wellKept _ (alike.trans present)
            (sameOwner former present), same, portion.ownedBy_eq]
  taken_eq id member := by
    rw [get?_write, get?_write]
    split
    · rfl
    · exact portion.taken_eq id member

/-- What somebody else writes into the whole, under an id that the discoverer does not derive or
where something of its own stands, is not noticed. -/
theorem write_aside (portion : Portion discovererId derived whole part) {other : String}
    (apart : other ≠ discovererId) (theirs : Entity.discovererId entity = some other)
    (aside : whole.get? (Entity.id entity) = none ∧ Entity.id entity ∉ derived ∨
      ∃ former, whole.get? (Entity.id entity) = some former ∧
        Entity.discovererId former = some other) :
    Portion discovererId derived (whole.write supply entity).2 part where
  whole_wellKept := portion.whole_wellKept.write supply entity
  part_wellKept := portion.part_wellKept
  ownedBy_eq := by
    rw [portion.ownedBy_eq]
    rcases aside with ⟨free, -⟩ | ⟨former, present, owned⟩
    · simp [ownedBy_write_of_free _ free, theirs, apart]
    · rw [ownedBy_write_of_taken portion.whole_wellKept _ present (theirs.trans owned.symm)]
      -- the entity that is replaced is somebody else's, and not listed for the discoverer
      have unmoved : ∀ stored ∈ whole.ownedBy discovererId,
          replacedBy (whole.write supply entity).1 stored = stored := by
        intro stored member
        obtain ⟨stands, own⟩ := portion.whole_wellKept.mem_ownedBy.mp member
        apply if_neg
        rw [write_fst, LawfulEntity.id_inGeneration]
        intro same
        rw [same, present, Option.some.injEq] at stands
        rw [← stands, owned, Option.some.injEq] at own
        exact apart own
      rw [List.map_congr_left unmoved, List.map_id']
  taken_eq id member := by
    rw [get?_write]
    split
    · rename_i same
      rw [portion.taken_eq id member, Option.isSome_some]
      rcases aside with ⟨-, underived⟩ | ⟨former, present, -⟩
      · exact absurd (same ▸ member) underived
      · rw [← same, present, Option.isSome_some]
    · exact portion.taken_eq id member

variable [NaturedEntity α]

/-- A call that the discoverer makes to both is answered alike, if what it stores is named alike,
and leaves a portion again. -/
theorem handler (portion : Portion discovererId derived whole part) {request : StoreCall α}
    (confined : whole.Confines discovererId derived request) {names : Nat → String}
    (named : names part.writes = supply whole.writes) :
    (Store.handler names request part).1 = (Store.handler supply request whole).1 ∧
      Portion discovererId derived (Store.handler supply request whole).2
        (Store.handler names request part).2 := by
  have same : ∀ entity : α, (part.write names entity).1 = (whole.write supply entity).1 := by
    intro entity
    rw [write_fst, write_fst, named]
  cases request with
  | get id => exact ⟨congrArg Except.ok (portion.get?_eq confined), portion⟩
  | list => exact confined.elim
  | listBy other =>
      obtain rfl : other = discovererId := confined
      exact ⟨congrArg Except.ok portion.ownedBy_eq, portion⟩
  | add entity =>
      have free := portion.get?_eq_none_iff confined.2
      cases present : whole.get? (Entity.id entity) with
      | none =>
          have alike : part.get? (Entity.id entity) = whole.get? (Entity.id entity) :=
            (free.mpr present).trans present.symm
          rw [handler_add, handler_add, add_of_free present, add_of_free (free.mpr present)]
          exact ⟨congrArg Except.ok (same entity),
            portion.write alike (by simp [present]) (same entity)⟩
      | some former =>
          obtain ⟨stored, taken⟩ : ∃ stored, part.get? (Entity.id entity) = some stored := by
            rw [← Option.isSome_iff_exists, portion.taken_eq _ confined.2, present,
              Option.isSome_some]
          rw [handler_add, handler_add, add_of_taken present, add_of_taken taken]
          exact ⟨rfl, portion⟩
  | update entity =>
      obtain ⟨former, present, owned, sameNature⟩ := confined
      have alike : part.get? (Entity.id entity) = whole.get? (Entity.id entity) :=
        portion.get?_eq (isOwned_iff.mpr ⟨former, present, owned⟩)
      -- both compare the generation that the update names with that of the same entity
      have taken := alike.trans present
      rw [handler_update, handler_update]
      cases accepted : accepts former entity with
      | true =>
          rw [update_of_accepts present accepted, update_of_accepts taken accepted]
          refine ⟨congrArg Except.ok (same entity), portion.write alike ?_ (same entity)⟩
          intro stored stands
          rw [present] at stands
          rw [NaturedEntity.discovererId_of_nature sameNature, Option.some.inj stands]
      | false =>
          rw [update_of_not_accepts present accepted, update_of_not_accepts taken accepted]
          exact ⟨rfl, portion⟩

/-- A call that somebody else makes to the whole, who derives other ids, is not noticed. -/
theorem others (portion : Portion discovererId derived whole part) {other : String}
    {theirs : List String} (apart : other ≠ discovererId) (disjoint : derived.Disjoint theirs)
    {request : StoreCall α} (confined : whole.Confines other theirs request) :
    Portion discovererId derived (Store.handler supply request whole).2 part := by
  rcases confined.handler_cases supply with same | ⟨entity, wrote, own, aside⟩
  · rwa [same]
  · rw [wrote]
    apply portion.write_aside apart own
    exact aside.imp_left fun free => ⟨free.1, fun member => disjoint member free.2⟩

end Portion

end Store

/-! ## Portions of the registry -/

/-- A registry that looks to the discoverer of an errand as the whole does. -/
structure Contents.Portion (errand : Errand) (whole part : Contents) : Prop where
  applications : Store.Portion errand.run.discovererId (derivedApplicationIds errand.seen)
    whole.applications part.applications
  endpoints : Store.Portion errand.run.discovererId (derivedEndpointIds errand.seen) whole.endpoints
    part.endpoints

/-- Errands of different discoverers that derive different ids. -/
structure Errand.Independent (first second : Errand) : Prop where
  discoverers : first.run.discovererId ≠ second.run.discovererId
  applications : (derivedApplicationIds first.seen).Disjoint (derivedApplicationIds second.seen)
  endpoints : (derivedEndpointIds first.seen).Disjoint (derivedEndpointIds second.seen)

/-- What is not a discoverer's own stands in a later registry exactly if it stood before. -/
structure Contents.Spares (discovererId : String) (before after : Contents) : Prop where
  applications : ∀ id stored, Entity.discovererId stored ≠ some discovererId →
    (after.applications.get? id = some stored ↔ before.applications.get? id = some stored)
  endpoints : ∀ id stored, Entity.discovererId stored ≠ some discovererId →
    (after.endpoints.get? id = some stored ↔ before.endpoints.get? id = some stored)

theorem Contents.Confines.spares {discovererId : String} {seen : List (Application × Endpoint)}
    {contents : Contents} {request : Call}
    (confined : contents.Confines discovererId seen request) (supply : Nat → String) :
    contents.Spares discovererId (Contents.handler supply request contents).2 := by
  cases request with
  | application request =>
      exact ⟨fun id stored foreign => Store.Confines.get?_eq_some_iff confined supply foreign,
        fun _ _ _ => Iff.rfl⟩
  | endpoint request =>
      exact ⟨fun _ _ _ => Iff.rfl,
        fun id stored foreign => Store.Confines.get?_eq_some_iff confined supply foreign⟩

namespace Contents.Portion

variable {supply : Nat → String} {errand other : Errand} {whole part : Contents} {request : Call}

theorem countedFrom (kept : whole.WellKept) (errand : Errand) (bound : Nat) :
    Portion errand whole (whole.countedFrom bound) :=
  ⟨.recounted kept.applications 0, .recounted kept.endpoints bound⟩

theorem handler (portion : Portion errand whole part)
    (confined : whole.Confines errand.run.discovererId errand.seen request) {names : Nat → String}
    (named : names (part.writes request) = supply (whole.writes request)) :
    (Contents.handler names request part).1 = (Contents.handler supply request whole).1 ∧
      Portion errand (Contents.handler supply request whole).2
        (Contents.handler names request part).2 := by
  cases request with
  | application request =>
      obtain ⟨reply, applications⟩ := portion.applications.handler confined named
      exact ⟨reply, applications, portion.endpoints⟩
  | endpoint request =>
      obtain ⟨reply, endpoints⟩ := portion.endpoints.handler confined named
      exact ⟨reply, portion.applications, endpoints⟩

theorem others (portion : Portion errand whole part) (independent : errand.Independent other)
    (confined : whole.Confines other.run.discovererId other.seen request) :
    Portion errand (Contents.handler supply request whole).2 part := by
  have apart := independent.discoverers.symm
  cases request with
  | application request =>
      exact ⟨portion.applications.others apart independent.applications confined,
        portion.endpoints⟩
  | endpoint request =>
      exact ⟨portion.applications,
        portion.endpoints.others apart independent.endpoints confined⟩

end Contents.Portion

end FieldSurvey.Registry
