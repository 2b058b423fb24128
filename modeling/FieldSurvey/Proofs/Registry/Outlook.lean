import FieldSurvey.Proofs.Registry.Passes

/-!
# Outlooks

What a run sees of the entities of a store decides what is to become of all of them.
What it sees is added or taken over unless it is somebody else's; what the discoverer
owns and the run does not see is to be lost; the rest stays.  Writing what is seen
and then losing what is missing carries such an outlook out.
-/

namespace FieldSurvey.Registry

variable {α : Type} [Entity α]

/-- Whether what stands under an id is the discoverer's own. -/
def Store.IsOwned (discovererId : String) : Option α → Bool
  | none => false
  | some stored => Entity.discovererId stored == some discovererId

@[simp]
theorem Store.isOwned_none (discovererId : String) :
    IsOwned discovererId (none : Option α) = false :=
  rfl

@[simp]
theorem Store.isOwned_some (discovererId : String) (stored : α) :
    IsOwned discovererId (some stored) = (Entity.discovererId stored == some discovererId) :=
  rfl

theorem Store.isOwned_iff {discovererId : String} {present : Option α} :
    IsOwned discovererId present = true ↔
      ∃ stored, present = some stored ∧ Entity.discovererId stored = some discovererId := by
  cases present <;> simp

theorem Store.isOpen_of_isOwned {discovererId : String} {present : Option α}
    (owned : IsOwned discovererId present) : IsOpen discovererId present := by
  cases present with
  | none => rfl
  | some stored => exact owned

/-- How a run deals with the entities of a store. -/
structure Treatment (α : Type) where
  discovererId : String
  /-- what is stored of an entity that is new -/
  add : α → α
  /-- what is stored of an entity that was known, if that makes a difference -/
  revise : α → α → Option α
  /-- what is stored of an entity that was not seen, if that makes a difference -/
  lose : α → Option α

namespace Treatment

/-- What is to become of an entity that was seen. -/
def ofSeen (treatment : Treatment α) (seen : α) : Option α → Option α :=
  Store.upsert treatment.discovererId (treatment.add seen) (treatment.revise seen)

/-- What is to become of every entity, by what the run has seen under its id. -/
def outlook (treatment : Treatment α) (seen? : String → Option α) : Intent α :=
  fun id present =>
    match seen? id with
    | some seen => treatment.ofSeen seen present
    | none =>
      if Store.IsOwned treatment.discovererId present then present.bind treatment.lose else none

variable {treatment : Treatment α} {seen? : String → Option α} {id : String}

theorem outlook_free {seen : α} (sighted : seen? id = some seen) :
    treatment.outlook seen? id none = some (treatment.add seen) := by
  simp [outlook, ofSeen, Store.upsert, sighted]

theorem outlook_owned {seen stored : α} (sighted : seen? id = some seen)
    (owned : Entity.discovererId stored = some treatment.discovererId) :
    treatment.outlook seen? id (some stored) = treatment.revise seen stored := by
  simp [outlook, ofSeen, Store.upsert, sighted, owned]

theorem outlook_foreign {stored : α}
    (foreign : Entity.discovererId stored ≠ some treatment.discovererId) :
    treatment.outlook seen? id (some stored) = none := by
  unfold outlook
  cases seen? id <;> simp [ofSeen, Store.upsert, foreign]

theorem outlook_missed {stored : α} (unsighted : seen? id = none)
    (owned : Entity.discovererId stored = some treatment.discovererId) :
    treatment.outlook seen? id (some stored) = treatment.lose stored := by
  simp [outlook, unsighted, owned]

theorem outlook_absent (unsighted : seen? id = none) :
    treatment.outlook seen? id none = none := by
  simp [outlook, unsighted]

variable {before after : Store α}

/-- What is somebody else's stays as it is. -/
theorem get?_of_foreign {former : α} (became : before.Becomes (treatment.outlook seen?) after)
    (present : before.get? id = some former)
    (foreign : Entity.discovererId former ≠ some treatment.discovererId) :
    after.get? id = some former := by
  rw [← present]
  apply became.kept
  rw [present]
  exact outlook_foreign foreign

/-- What is neither there nor seen is not there afterwards. -/
theorem get?_of_absent (became : before.Becomes (treatment.outlook seen?) after)
    (absent : before.get? id = none) (unsighted : seen? id = none) : after.get? id = none := by
  rw [← absent]
  apply became.kept
  rw [absent]
  exact outlook_absent unsighted

/-- What a treatment makes of what stands under an id, by what was seen of it. -/
inductive Fate (treatment : Treatment α) : (seen? before? after? : Option α) → Prop
  | absent : Fate treatment none none none
  | added {seen : α} (generation : String) :
      Fate treatment (some seen) none
        (some (Entity.inGeneration (some generation) (treatment.add seen)))
  | foreign {seen? : Option α} {former : α}
      (others : Entity.discovererId former ≠ some treatment.discovererId) :
      Fate treatment seen? (some former) (some former)
  | unchanged {seen former : α} (owned : Entity.discovererId former = some treatment.discovererId)
      (same : treatment.revise seen former = none) :
      Fate treatment (some seen) (some former) (some former)
  | revised {seen former entity : α} (generation : String)
      (owned : Entity.discovererId former = some treatment.discovererId)
      (change : treatment.revise seen former = some entity) :
      Fate treatment (some seen) (some former)
        (some (Entity.inGeneration (some generation) entity))
  | stillLost {former : α} (owned : Entity.discovererId former = some treatment.discovererId)
      (same : treatment.lose former = none) : Fate treatment none (some former) (some former)
  | lost {former entity : α} (generation : String)
      (owned : Entity.discovererId former = some treatment.discovererId)
      (change : treatment.lose former = some entity) :
      Fate treatment none (some former) (some (Entity.inGeneration (some generation) entity))

theorem fate_of_becomes (became : before.Becomes (treatment.outlook seen?) after) (id : String) :
    treatment.Fate (seen? id) (before.get? id) (after.get? id) := by
  cases sighted : seen? id with
  | none =>
      cases present : before.get? id with
      | none =>
          rw [get?_of_absent became present sighted]
          exact .absent
      | some former =>
          by_cases owned : Entity.discovererId former = some treatment.discovererId
          · have outlook : treatment.outlook seen? id (before.get? id) =
                treatment.lose former := by
              rw [present]
              exact outlook_missed sighted owned
            cases change : treatment.lose former with
            | none =>
                rw [became.kept (outlook.trans change), present]
                exact .stillLost owned change
            | some entity =>
                obtain ⟨generation, wrote⟩ := became.written (outlook.trans change)
                rw [wrote]
                exact .lost generation owned change
          · rw [get?_of_foreign became present owned]
            exact .foreign owned
  | some seen =>
      cases present : before.get? id with
      | none =>
          have outlook : treatment.outlook seen? id (before.get? id) =
              some (treatment.add seen) := by
            rw [present]
            exact outlook_free sighted
          obtain ⟨generation, wrote⟩ := became.written outlook
          rw [wrote]
          exact .added generation
      | some former =>
          by_cases owned : Entity.discovererId former = some treatment.discovererId
          · have outlook : treatment.outlook seen? id (before.get? id) =
                treatment.revise seen former := by
              rw [present]
              exact outlook_owned sighted owned
            cases change : treatment.revise seen former with
            | none =>
                rw [became.kept (outlook.trans change), present]
                exact .unchanged owned change
            | some entity =>
                obtain ⟨generation, wrote⟩ := became.written (outlook.trans change)
                rw [wrote]
                exact .revised generation owned change
          · rw [get?_of_foreign became present owned]
            exact .foreign owned

/-- What is stored of an entity that was seen and may be written. -/
theorem exists_of_seen {Holds : α → Prop} {seen : α}
    (became : before.Becomes (treatment.outlook seen?) after) (sighted : seen? id = some seen)
    (isOpen : Store.IsOpen treatment.discovererId (before.get? id))
    (added : ∀ generation, Holds (Entity.inGeneration (some generation) (treatment.add seen)))
    (revised : ∀ generation former entity,
      Entity.discovererId former = some treatment.discovererId →
        treatment.revise seen former = some entity →
          Holds (Entity.inGeneration (some generation) entity))
    (same : ∀ former, Entity.discovererId former = some treatment.discovererId →
      treatment.revise seen former = none → Holds former) :
    ∃ stored, after.get? id = some stored ∧ Holds stored := by
  have fate := fate_of_becomes became id
  rw [sighted] at fate
  generalize before.get? id = before?, after.get? id = after? at fate isOpen ⊢
  cases fate with
  | added generation => exact ⟨_, rfl, added generation⟩
  | foreign others => exact absurd (by simpa using isOpen) others
  | unchanged owned kept => exact ⟨_, rfl, same _ owned kept⟩
  | revised generation owned change => exact ⟨_, rfl, revised generation _ _ owned change⟩

/-- What is stored of the discoverer's entity that was not seen. -/
theorem exists_of_missed {Holds : α → Prop} {former : α}
    (became : before.Becomes (treatment.outlook seen?) after) (unsighted : seen? id = none)
    (present : before.get? id = some former)
    (owned : Entity.discovererId former = some treatment.discovererId)
    (lost : ∀ generation entity, treatment.lose former = some entity →
      Holds (Entity.inGeneration (some generation) entity))
    (same : treatment.lose former = none → Holds former) :
    ∃ stored, after.get? id = some stored ∧ Holds stored := by
  have fate := fate_of_becomes became id
  rw [unsighted, present] at fate
  generalize after.get? id = after? at fate ⊢
  cases fate with
  | foreign others => exact absurd owned others
  | stillLost _ kept => exact ⟨_, rfl, same kept⟩
  | lost generation _ change => exact ⟨_, rfl, lost generation _ change⟩

end Treatment

theorem Store.WellKept.mem_ownedBy_ids_iff_isOwned {store : Store α} (kept : store.WellKept)
    (discovererId id : String) :
    id ∈ (store.ownedBy discovererId).map Entity.id ↔
      Store.IsOwned discovererId (store.get? id) = true := by
  rw [kept.mem_ownedBy_ids]
  cases store.get? id <;> simp

theorem mem_missing {listed accounted : List String} {id : String} :
    id ∈ missing listed accounted ↔ id ∈ listed ∧ id ∉ accounted := by
  simp [missing]

section Losing

variable {store middle : Store α} {treatment : Treatment α} {entities : List α}
  {accounted : List String}

theorem not_mem_missing_of_seen (kept : store.WellKept)
    (complete : ∀ id, Store.IsOwned treatment.discovererId (store.get? id) →
      (id ∈ accounted ↔ id ∈ entities.map Entity.id)) {id : String}
    (seen : id ∈ entities.map Entity.id) :
    id ∉ missing ((store.ownedBy treatment.discovererId).map Entity.id) accounted := by
  intro member
  obtain ⟨inListed, unaccounted⟩ := mem_missing.mp member
  have owned := (kept.mem_ownedBy_ids_iff_isOwned treatment.discovererId id).mp inListed
  exact unaccounted ((complete id owned).mpr seen)

/-- Writing what was seen and losing what was not accounted for, in one. -/
theorem each_orElse_among (kept : store.WellKept)
    (complete : ∀ id, Store.IsOwned treatment.discovererId (store.get? id) →
      (id ∈ accounted ↔ id ∈ entities.map Entity.id)) (id : String) :
    ((Intent.each treatment.ofSeen entities).orElse
      (Intent.among (missing ((store.ownedBy treatment.discovererId).map Entity.id) accounted)
        treatment.lose)) id (store.get? id) =
      treatment.outlook (firstOf entities) id (store.get? id) := by
  have listed := kept.mem_ownedBy_ids_iff_isOwned treatment.discovererId id
  unfold Intent.orElse Intent.each Intent.among Treatment.outlook
  cases sighted : firstOf entities id with
  | none =>
      have unseen := firstOf_eq_none_iff.mp sighted
      by_cases owned : Store.IsOwned treatment.discovererId (store.get? id)
      · have missed : id ∈ missing ((store.ownedBy treatment.discovererId).map Entity.id)
            accounted := mem_missing.mpr
          ⟨listed.mpr owned, fun member => unseen ((complete id owned).mp member)⟩
        simp [missed, owned]
      · have ignored : id ∉ missing ((store.ownedBy treatment.discovererId).map Entity.id)
            accounted := fun member => owned (listed.mp (mem_missing.mp member).1)
        simp [ignored, owned]
  | some entity =>
      have spared := not_mem_missing_of_seen kept complete (mem_ids_of_firstOf sighted)
      simp [spared]

/-- A store is as the outlook has it once what was seen is written and what was not
accounted for is lost. -/
theorem becomes_outlook [LawfulEntity α] (supply : Nat → String) (kept : store.WellKept)
    (complete : ∀ id, Store.IsOwned treatment.discovererId (store.get? id) →
      (id ∈ accounted ↔ id ∈ entities.map Entity.id))
    (keeps : KeepsIdentity treatment.lose) (middleKept : middle.WellKept)
    (became : store.Becomes (Intent.each treatment.ofSeen entities) middle) :
    store.Becomes (treatment.outlook (firstOf entities))
      (middle.revisedAll supply treatment.lose
        (missing ((store.ownedBy treatment.discovererId).map Entity.id) accounted)) := by
  have nodup : (missing ((store.ownedBy treatment.discovererId).map Entity.id)
      accounted).Nodup :=
    (kept.nodup_ownedBy_ids treatment.discovererId).filter _
  have lost := Store.becomes_revisedAll supply middleKept keeps nodup
  refine (became.trans lost fun id => ?_).congr (each_orElse_among kept complete)
  by_cases seen : id ∈ entities.map Entity.id
  · have spared := not_mem_missing_of_seen kept complete seen
    exact Or.inr fun present => if_neg spared
  · exact Or.inl (Intent.each_eq_none seen _ _)

variable (treatment) in
/-- How many entities a run makes lost. -/
theorem affected_missing (kept : store.WellKept)
    (complete : ∀ id, Store.IsOwned treatment.discovererId (store.get? id) →
      (id ∈ accounted ↔ id ∈ entities.map Entity.id))
    (became : store.Becomes (Intent.each treatment.ofSeen entities) middle) :
    middle.affected treatment.lose
        (missing ((store.ownedBy treatment.discovererId).map Entity.id) accounted) =
      (store.ownedBy treatment.discovererId).countP fun stored =>
        (treatment.lose stored).isSome && (firstOf entities (Entity.id stored)).isNone := by
  have owned : ∀ stored ∈ store.ownedBy treatment.discovererId,
      store.get? (Entity.id stored) = some stored := by
    intro stored member
    exact (kept.mem_toList stored).mp (List.mem_filter.mp member).1
  unfold Store.affected missing
  rw [List.countP_filter, List.countP_map]
  apply List.countP_congr
  intro stored member
  have isOwned : Store.IsOwned treatment.discovererId (store.get? (Entity.id stored)) :=
    (kept.mem_ownedBy_ids_iff_isOwned _ _).mp (List.mem_map_of_mem member)
  have accountedFor := complete (Entity.id stored) isOwned
  cases sighted : firstOf entities (Entity.id stored) with
  | none =>
      have unseen := firstOf_eq_none_iff.mp sighted
      have unaccounted : Entity.id stored ∉ accounted :=
        fun member => unseen (accountedFor.mp member)
      have untouched := became.kept (Intent.each_eq_none unseen _ _)
      simp [untouched, owned stored member, unaccounted]
  | some entity =>
      have isAccounted := accountedFor.mpr (mem_ids_of_firstOf sighted)
      simp [isAccounted]

end Losing

end FieldSurvey.Registry
