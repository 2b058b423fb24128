import FieldSurvey.Proofs.Registry.Outlook
import Mathlib.Data.List.Dedup
import Mathlib.Data.List.Perm.Basic

/-!
# What a reconciliation counts

The summary of a reconciliation can be told from what the batch says and what stood in
the registry before: every application and every endpoint of the batch is counted
once, in whatever order they were dealt with.
-/

namespace FieldSurvey.Registry

open Model (Application Endpoint Registration ResultRecord)
open Time (Timestamp)

/-- The applications of what was seen, each as its first record tells of it. -/
def firstApplications (seen : List (Application × Endpoint)) : List Application :=
  (seen.map (·.1.applicationId)).dedup.filterMap (firstApplication seen)

/-- The endpoints of what was seen, each as its last record tells of it. -/
def lastEndpoints (seen : List (Application × Endpoint)) : List Endpoint :=
  (seen.map (·.2.id)).dedup.filterMap (lastEndpoint seen)

/-- The endpoint of an id as a run has seen it, provided that its application may be
written. -/
def seenEndpoint (run : Run) (before : Store Application) (seen : List (Application × Endpoint))
    (id : String) : Option Endpoint :=
  (lastEndpoint seen id).filter fun endpoint =>
    Store.IsOpen run.discovererId (before.get? endpoint.applicationId)

/-- The verdict on an endpoint of a batch.  It is skipped with its application. -/
def batchEndpointVerdict (run : Run) (before : Contents) (endpoint : Endpoint) : Verdict :=
  if Store.IsOpen run.discovererId (before.applications.get? endpoint.applicationId) then
    endpointVerdict run before.endpoints endpoint
  else .skipped

/-- The verdicts on all that a batch tells of. -/
def batchVerdicts (run : Run) (before : Contents) (seen : List (Application × Endpoint)) :
    List Verdict :=
  (firstApplications seen).map (applicationVerdict run before.applications) ++
    (lastEndpoints seen).map (batchEndpointVerdict run before)

/-- How many applications become lost. -/
def lostApplications (run : Run) (before : Contents) (seen : List (Application × Endpoint)) :
    Nat :=
  (before.applications.ownedBy run.discovererId).countP fun application =>
    !application.isLost && (firstApplication seen application.applicationId).isNone

/-- How many endpoints become lost. -/
def lostEndpoints (run : Run) (before : Contents) (seen : List (Application × Endpoint)) : Nat :=
  (before.endpoints.ownedBy run.discovererId).countP fun endpoint =>
    !endpoint.isLost && (seenEndpoint run before.applications seen endpoint.id).isNone

/-- The summary of a reconciliation in which no call fails. -/
def tally (run : Run) (before : Contents) (results : List ResultRecord) : Summary :=
  let seen := sightings run.discovererId results
  { added := (batchVerdicts run before seen).count .added
    updated := (batchVerdicts run before seen).count .updated
    unchanged := (batchVerdicts run before seen).count .unchanged
    lost := lostApplications run before seen + lostEndpoints run before seen
    skipped := results.countP (isNameless run.discovererId) +
      (batchVerdicts run before seen).count .skipped
    failed := 0 }

/-! ## Candidates in any order -/

/-- Of different ids every entity is the first one of its own. -/
theorem firstOf_of_mem {α : Type} [Entity α] {entities : List α}
    (nodup : (entities.map Entity.id).Nodup) {entity : α} (member : entity ∈ entities) :
    firstOf entities (Entity.id entity) = some entity := by
  induction entities with
  | nil => simp at member
  | cons first rest ih =>
      rw [List.map_cons, List.nodup_cons] at nodup
      rcases List.mem_cons.mp member with rfl | inRest
      · simp [firstOf]
      · have apart : Entity.id first ≠ Entity.id entity := fun same =>
          nodup.1 (same ▸ List.mem_map_of_mem inRest)
        have below := ih nodup.2 inRest
        simpa [firstOf, apart] using below

theorem filterMap_firstOf {α : Type} [Entity α] {entities : List α}
    (nodup : (entities.map Entity.id).Nodup) :
    (entities.map Entity.id).filterMap (firstOf entities) = entities := by
  rw [List.filterMap_map, List.filterMap_congr (g := some)]
  · exact List.filterMap_some
  · exact fun entity member => firstOf_of_mem nodup member

/-- Entities of different ids are found again from their ids, in whatever order. -/
theorem perm_filterMap_firstOf {α : Type} [Entity α] {entities : List α} {ids : List String}
    (nodup : (entities.map Entity.id).Nodup) (idsNodup : ids.Nodup)
    (complete : ∀ id, id ∈ ids ↔ id ∈ entities.map Entity.id) :
    entities.Perm (ids.filterMap (firstOf entities)) := by
  have same : (entities.map Entity.id).Perm ids :=
    (List.perm_ext_iff_of_nodup nodup idsNodup).mpr fun id => (complete id).symm
  have found := same.filterMap (firstOf entities)
  rwa [filterMap_firstOf nodup] at found

theorem firstOf_filter {α : Type} [Entity α] {entities : List α}
    (nodup : (entities.map Entity.id).Nodup) (keep : α → Bool) (id : String) :
    firstOf (entities.filter keep) id = (firstOf entities id).filter keep := by
  induction entities with
  | nil => rfl
  | cons first rest ih =>
      rw [List.map_cons, List.nodup_cons] at nodup
      have below := ih nodup.2
      by_cases same : Entity.id first = id
      · have missing : firstOf rest id = none := firstOf_eq_none_iff.mpr (same ▸ nodup.1)
        rw [missing] at below
        by_cases kept : keep first
        · simp [firstOf, Option.filter_some, kept, same]
        · have here : firstOf (first :: rest) id = some first := by simp [firstOf, same]
          rw [here, List.filter_cons_of_neg kept, below]
          simp [Option.filter_some, kept]
      · have here : firstOf (first :: rest) id = firstOf rest id := by simp [firstOf, same]
        rw [here, ← below]
        by_cases kept : keep first <;> simp [firstOf, kept, same]

section Batch

variable {run : Run} {before : Contents} {seen : List (Application × Endpoint)}

theorem firstOf_grouped (seen : List (Application × Endpoint)) :
    firstOf ((grouped seen).map Registration.application) = firstApplication seen :=
  funext (candidateApplication_grouped seen)

theorem perm_firstApplications
    (owns : ∀ sighting ∈ seen, sighting.2.applicationId = sighting.1.applicationId) :
    ((grouped seen).map Registration.application).Perm (firstApplications seen) := by
  unfold firstApplications
  rw [← firstOf_grouped]
  refine perm_filterMap_firstOf ?_ (List.nodup_dedup _) fun id => ?_
  · rw [List.map_map]
    exact (Grouped.of_seen owns).applications_nodup
  · have mention : firstOf (seen.map Prod.fst) id = none ↔
        firstOf ((grouped seen).map Registration.application) id = none := by
      rw [firstOf_grouped]
      rfl
    rw [firstOf_eq_none_iff, firstOf_eq_none_iff, not_iff_not, List.map_map] at mention
    rw [List.mem_dedup]
    exact mention

theorem perm_lastEndpoints
    (owns : ∀ sighting ∈ seen, sighting.2.applicationId = sighting.1.applicationId)
    (separate : Separate seen) : (allEndpoints (grouped seen)).Perm (lastEndpoints seen) := by
  have same : firstOf (allEndpoints (grouped seen)) = lastEndpoint seen :=
    funext (find?_allEndpoints_grouped owns separate)
  unfold lastEndpoints
  rw [← same]
  apply perm_filterMap_firstOf (nodup_allEndpoints_grouped owns separate) (List.nodup_dedup _)
  intro id
  have mention : firstOf (seen.map Prod.snd).reverse id = none ↔
      firstOf (allEndpoints (grouped seen)) id = none := by
    rw [same]
    rfl
  rw [firstOf_eq_none_iff, firstOf_eq_none_iff, not_iff_not, List.map_reverse,
    List.mem_reverse, List.map_map] at mention
  rw [List.mem_dedup]
  exact mention

/-- The endpoints that a run writes are those of applications that it may write. -/
theorem allEndpoints_writable
    (owns : ∀ sighting ∈ seen, sighting.2.applicationId = sighting.1.applicationId)
    (stored : Store Application) :
    allEndpoints (writable run stored (grouped seen)) =
      (allEndpoints (grouped seen)).filter fun endpoint =>
        Store.IsOpen run.discovererId (stored.get? endpoint.applicationId) := by
  have belongs := (Grouped.of_seen owns).belongs
  generalize grouped seen = groups at belongs
  induction groups with
  | nil => rfl
  | cons first rest ih =>
      have below := ih fun group member => belongs group (List.mem_cons_of_mem first member)
      have uniform : first.endpoints.filter (fun endpoint =>
          Store.IsOpen run.discovererId (stored.get? endpoint.applicationId)) =
            if isWritable run stored first then first.endpoints else [] := by
        rw [List.filter_congr (q := fun _ => isWritable run stored first)]
        · by_cases open_ : isWritable run stored first <;> simp [open_]
        · intro endpoint member
          rw [belongs first List.mem_cons_self endpoint member]
          rfl
      simp only [writable] at below ⊢
      rw [allEndpoints_cons, List.filter_append, uniform, ← below]
      by_cases open_ : isWritable run stored first <;> simp [open_]

variable (run) in
theorem firstOf_allEndpoints_writable
    (owns : ∀ sighting ∈ seen, sighting.2.applicationId = sighting.1.applicationId)
    (separate : Separate seen) (stored : Store Application) :
    firstOf (allEndpoints (writable run stored (grouped seen))) = seenEndpoint run stored seen := by
  funext id
  rw [allEndpoints_writable owns, firstOf_filter (nodup_allEndpoints_grouped owns separate)]
  have same : firstOf (allEndpoints (grouped seen)) id = lastEndpoint seen id :=
    find?_allEndpoints_grouped owns separate id
  rw [same]
  rfl

variable (run before) in
/-- The verdicts on the candidates are those on the batch. -/
theorem perm_batchVerdicts
    (owns : ∀ sighting ∈ seen, sighting.2.applicationId = sighting.1.applicationId)
    (separate : Separate seen) :
    ((grouped seen).flatMap (candidateVerdicts run before)).Perm
      (batchVerdicts run before seen) := by
  have split : (grouped seen).flatMap (candidateVerdicts run before) =
      (grouped seen).flatMap fun candidate =>
        [applicationVerdict run before.applications candidate.application] ++
          candidate.endpoints.map (batchEndpointVerdict run before) := by
    apply List.flatMap_congr
    intro candidate member
    have belongs := (Grouped.of_seen owns).belongs candidate member
    unfold candidateVerdicts
    rw [List.singleton_append]
    congr 1
    by_cases open_ : isWritable run before.applications candidate
    · rw [if_pos open_]
      apply List.map_congr_left
      intro endpoint inCandidate
      rw [batchEndpointVerdict, belongs endpoint inCandidate]
      exact (if_pos open_).symm
    · rw [if_neg open_, List.map_congr_left (g := fun _ => Verdict.skipped), List.map_const']
      intro endpoint inCandidate
      rw [batchEndpointVerdict, belongs endpoint inCandidate]
      exact if_neg open_
  rw [split]
  refine (List.flatMap_append_perm _ _ _).symm.trans (List.Perm.append ?_ ?_)
  · rw [← List.map_eq_flatMap]
    have applications := (perm_firstApplications owns).map
      (applicationVerdict run before.applications)
    rwa [List.map_map] at applications
  · rw [← List.map_flatMap]
    exact (perm_lastEndpoints owns separate).map _

end Batch

end FieldSurvey.Registry
