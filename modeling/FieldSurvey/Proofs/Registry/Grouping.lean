import FieldSurvey.Proofs.Model.Registration
import FieldSurvey.Registry.Candidate
import Mathlib.Data.List.Induction
import Mathlib.Data.List.Nodup

/-!
# Grouping a batch

The candidates of a batch say of every application what its first record says, and
of every endpoint what its last one says.  No two candidates are of one
application, and as long as the ids of endpoints tell applications apart no two of
their endpoints are one.
-/

namespace FieldSurvey.Registry

open Model (Application Endpoint Registration ResultRecord)

/-- The application and the endpoint that a record tells of, as the discoverer owns
them. -/
def sighting? (discovererId : String) (result : ResultRecord) : Option (Application × Endpoint) :=
  match result.application, result.endpoint with
  | some application, some endpoint =>
    (derivedId? discovererId application).map fun applicationId =>
      (ownedApplication discovererId applicationId application,
        ownedEndpoint discovererId applicationId application endpoint)
  | _, _ => none

theorem sighting?_eq_some_iff {discovererId : String} {result : ResultRecord}
    {sighting : Application × Endpoint} :
    sighting? discovererId result = some sighting ↔
      ∃ application endpoint id, result.application = some application ∧
        result.endpoint = some endpoint ∧ derivedId? discovererId application = some id ∧
        (ownedApplication discovererId id application,
          ownedEndpoint discovererId id application endpoint) = sighting := by
  rcases result with ⟨index, timestamp, _ | application, _ | endpoint, info⟩ <;>
    simp [sighting?]

/-- What the records of a batch tell of, one after the other. -/
def sightings (discovererId : String) (results : List ResultRecord) :
    List (Application × Endpoint) :=
  results.filterMap (sighting? discovererId)

/-- Whether a record tells of an application without uri. -/
def isNameless (discovererId : String) (result : ResultRecord) : Bool :=
  match result.application, result.endpoint with
  | some application, some _ => (derivedId? discovererId application).isNone
  | _, _ => false

/-- The application of an id as the first record tells of it. -/
def firstApplication (seen : List (Application × Endpoint)) (id : String) : Option Application :=
  (seen.map Prod.fst).find? fun application => application.applicationId = id

/-- The endpoint of an id as the last record tells of it. -/
def lastEndpoint (seen : List (Application × Endpoint)) (id : String) : Option Endpoint :=
  (seen.map Prod.snd).reverse.find? fun endpoint => endpoint.id = id

/-- Endpoints of different applications have different ids. -/
def Separate (seen : List (Application × Endpoint)) : Prop :=
  ∀ first ∈ seen, ∀ second ∈ seen,
    first.2.id = second.2.id → first.1.applicationId = second.1.applicationId

theorem Separate.of_append {front back : List (Application × Endpoint)}
    (separate : Separate (front ++ back)) : Separate front :=
  fun first firstMember second secondMember =>
    separate first (List.mem_append_left back firstMember) second
      (List.mem_append_left back secondMember)

/-- The candidates of what was seen. -/
def grouped (seen : List (Application × Endpoint)) : List Registration :=
  seen.foldl (fun groups sighting => placeEndpoint sighting.1 sighting.2 groups) []

/-- The endpoints of all candidates. -/
def allEndpoints (groups : List Registration) : List Endpoint :=
  groups.flatMap Registration.endpoints

@[simp]
theorem allEndpoints_nil : allEndpoints [] = [] :=
  rfl

@[simp]
theorem allEndpoints_cons (first : Registration) (rest : List Registration) :
    allEndpoints (first :: rest) = first.endpoints ++ allEndpoints rest :=
  rfl

@[simp]
theorem allEndpoints_append (front back : List Registration) :
    allEndpoints (front ++ back) = allEndpoints front ++ allEndpoints back :=
  List.flatMap_append

/-- The application of an id among the candidates. -/
def candidateApplication (groups : List Registration) (id : String) : Option Application :=
  (groups.map Registration.application).find? fun application => application.applicationId = id

theorem sighting_ids {discovererId : String} {result : ResultRecord}
    {sighting : Application × Endpoint} (sighted : sighting? discovererId result = some sighting) :
    sighting.2.applicationId = sighting.1.applicationId := by
  obtain ⟨_, _, _, -, -, -, rfl⟩ := sighting?_eq_some_iff.mp sighted
  rfl

theorem ids_of_mem_sightings {discovererId : String} {results : List ResultRecord}
    {sighting : Application × Endpoint} (member : sighting ∈ sightings discovererId results) :
    sighting.2.applicationId = sighting.1.applicationId := by
  rcases List.mem_filterMap.mp member with ⟨result, -, sighted⟩
  exact sighting_ids sighted

/-- A batch that tells of one application only is separate. -/
theorem separate_of_one_application {discovererId : String} {results : List ResultRecord}
    {application : Application}
    (alone : ∀ result ∈ results, result.application = some application) :
    Separate (sightings discovererId results) := by
  have derived : ∀ sighting ∈ sightings discovererId results,
      derivedId? discovererId application = some sighting.1.applicationId := by
    intro sighting member
    obtain ⟨result, inBatch, sighted⟩ := List.mem_filterMap.mp member
    obtain ⟨_, _, _, told, -, found, rfl⟩ := sighting?_eq_some_iff.mp sighted
    obtain rfl := Option.some.inj ((alone result inBatch).symm.trans told)
    exact found
  intro first firstMember second secondMember _
  exact Option.some.inj ((derived first firstMember).symm.trans (derived second secondMember))

theorem discovererId_of_mem_sightings {discovererId : String} {results : List ResultRecord}
    {sighting : Application × Endpoint} (member : sighting ∈ sightings discovererId results) :
    sighting.1.discovererId = some discovererId ∧ sighting.2.discovererId = some discovererId := by
  rcases List.mem_filterMap.mp member with ⟨result, -, sighted⟩
  obtain ⟨_, _, _, -, -, -, rfl⟩ := sighting?_eq_some_iff.mp sighted
  exact ⟨rfl, rfl⟩

/-- Grouping a batch is grouping what its records tell of. -/
theorem ofBatch_eq (discovererId : String) (results : List ResultRecord) :
    Candidates.ofBatch discovererId results =
      { registrations := grouped (sightings discovererId results)
        skipped := results.countP (isNameless discovererId) } := by
  induction results using List.reverseRecOn with
  | nil => rfl
  | append_singleton front last ih =>
      unfold Candidates.ofBatch at ih ⊢
      rw [List.foldl_concat, ih]
      rcases last with ⟨index, timestamp, application, endpoint, info⟩
      cases application with
      | none => simp [Candidates.place, sightings, sighting?, isNameless, List.filterMap_cons]
      | some application =>
          cases endpoint with
          | none => simp [Candidates.place, sightings, sighting?, isNameless, List.filterMap_cons]
          | some endpoint =>
              cases derived : derivedId? discovererId application <;>
                simp [Candidates.place, sightings, sighting?, isNameless, grouped, derived]

/-! ## Placing one endpoint -/

theorem find?_putEndpoint (endpoint : Endpoint) (endpoints : List Endpoint) (id : String) :
    (Registration.putEndpoint endpoint endpoints).find? (fun other => other.id = id) =
      if endpoint.id = id then some endpoint
      else endpoints.find? fun other => other.id = id := by
  rw [Registration.putEndpoint_eq, Keyed.find?_place Registration.id_replaced]
  cases endpoints.find? fun other => other.id = id <;> rfl

theorem mem_putEndpoint {endpoint other : Endpoint} {endpoints : List Endpoint}
    (member : other ∈ Registration.putEndpoint endpoint endpoints) :
    other = endpoint ∨ other ∈ endpoints := by
  induction endpoints with
  | nil => exact Or.inl (List.mem_singleton.mp member)
  | cons first rest ih =>
      unfold Registration.putEndpoint at member
      split at member
      · rcases List.mem_cons.mp member with equal | inRest
        · exact Or.inl equal
        · exact Or.inr (List.mem_cons_of_mem first inRest)
      · rcases List.mem_cons.mp member with equal | inRest
        · exact Or.inr (equal ▸ List.mem_cons_self)
        · rcases ih inRest with equal | old
          · exact Or.inl equal
          · exact Or.inr (List.mem_cons_of_mem first old)

theorem nodup_putEndpoint (endpoint : Endpoint) {endpoints : List Endpoint}
    (nodup : (endpoints.map Endpoint.id).Nodup) :
    ((Registration.putEndpoint endpoint endpoints).map Endpoint.id).Nodup := by
  rw [Registration.putEndpoint_eq]
  exact Keyed.nodup_place Registration.id_replaced nodup

theorem candidateApplication_placeEndpoint (application : Application) (endpoint : Endpoint)
    (groups : List Registration) (id : String) :
    candidateApplication (placeEndpoint application endpoint groups) id =
      (candidateApplication groups id).or
        (if application.applicationId = id then some application else none) := by
  induction groups with
  | nil => by_cases same : application.applicationId = id <;>
      simp [candidateApplication, placeEndpoint, same]
  | cons first rest ih =>
      simp only [candidateApplication] at ih ⊢
      unfold placeEndpoint
      split
      · rename_i head
        simp only [List.map_cons, List.find?_cons]
        by_cases here : first.application.applicationId = id
        · simp [here]
        · simp [here, ← head]
      · simp only [List.map_cons, List.find?_cons]
        by_cases here : first.application.applicationId = id
        · simp [here]
        · simpa [here] using ih

theorem mem_placeEndpoint {application : Application} {endpoint : Endpoint}
    {groups : List Registration} {group : Registration}
    (member : group ∈ placeEndpoint application endpoint groups) :
    group ∈ groups ∨ ∃ old : List Endpoint,
      group.endpoints = Registration.putEndpoint endpoint old ∧
      group.application.applicationId = application.applicationId ∧
      (old = [] ∨ ∃ former ∈ groups, former.endpoints = old ∧
        former.application = group.application) := by
  induction groups with
  | nil =>
      rw [List.mem_singleton.mp member]
      exact Or.inr ⟨[], rfl, rfl, Or.inl rfl⟩
  | cons first rest ih =>
      unfold placeEndpoint at member
      split at member
      · rename_i head
        rcases List.mem_cons.mp member with equal | inRest
        · subst equal
          exact Or.inr ⟨first.endpoints, rfl, head,
            Or.inr ⟨first, List.mem_cons_self, rfl, rfl⟩⟩
        · exact Or.inl (List.mem_cons_of_mem first inRest)
      · rcases List.mem_cons.mp member with equal | inRest
        · exact Or.inl (equal ▸ List.mem_cons_self)
        · rcases ih inRest with old | ⟨old, placed, same, none | ⟨former, formerMember, rest⟩⟩
          · exact Or.inl (List.mem_cons_of_mem first old)
          · exact Or.inr ⟨old, placed, same, Or.inl none⟩
          · exact Or.inr ⟨old, placed, same,
              Or.inr ⟨former, List.mem_cons_of_mem first formerMember, rest⟩⟩

theorem application_of_mem_placeEndpoint {application : Application} {endpoint : Endpoint}
    {groups : List Registration} {group : Registration}
    (member : group ∈ placeEndpoint application endpoint groups) :
    group.application = application ∨
      ∃ former ∈ groups, former.application = group.application := by
  induction groups with
  | nil =>
      rw [List.mem_singleton.mp member]
      exact Or.inl rfl
  | cons first rest ih =>
      unfold placeEndpoint at member
      split at member
      · rcases List.mem_cons.mp member with rfl | inRest
        · exact Or.inr ⟨first, List.mem_cons_self, rfl⟩
        · exact Or.inr ⟨group, List.mem_cons_of_mem first inRest, rfl⟩
      · rcases List.mem_cons.mp member with rfl | inRest
        · exact Or.inr ⟨group, List.mem_cons_self, rfl⟩
        · rcases ih inRest with new | ⟨former, old, same⟩
          · exact Or.inl new
          · exact Or.inr ⟨former, List.mem_cons_of_mem first old, same⟩

theorem ids_placeEndpoint (application : Application) (endpoint : Endpoint)
    (groups : List Registration) :
    (placeEndpoint application endpoint groups).map (·.application.applicationId) =
      if application.applicationId ∈ groups.map (·.application.applicationId) then
        groups.map (·.application.applicationId)
      else groups.map (·.application.applicationId) ++ [application.applicationId] := by
  induction groups with
  | nil => simp [placeEndpoint]
  | cons first rest ih =>
      unfold placeEndpoint
      by_cases head : first.application.applicationId = application.applicationId
      · simp [head]
      · have apart : ¬application.applicationId = first.application.applicationId :=
          fun equal => head equal.symm
        rw [if_neg head, List.map_cons, ih]
        simp only [List.map_cons, List.mem_cons, apart, false_or]
        split <;> simp

/-- A group for every application, each with its own endpoints. -/
structure Grouped (groups : List Registration) : Prop where
  applications_nodup : (groups.map (·.application.applicationId)).Nodup
  endpoints_nodup : ∀ group ∈ groups, (group.endpoints.map Endpoint.id).Nodup
  belongs : ∀ group ∈ groups, ∀ endpoint ∈ group.endpoints,
    endpoint.applicationId = group.application.applicationId

theorem Grouped.placeEndpoint {groups : List Registration} (before : Grouped groups)
    {application : Application} {endpoint : Endpoint}
    (same : endpoint.applicationId = application.applicationId) :
    Grouped (placeEndpoint application endpoint groups) where
  applications_nodup := by
    rw [ids_placeEndpoint]
    split
    · exact before.applications_nodup
    · rename_i fresh
      exact List.nodup_append.mpr ⟨before.applications_nodup, by simp, by
        intro id member last lastMember equal
        exact fresh (List.mem_singleton.mp lastMember ▸ equal ▸ member)⟩
  endpoints_nodup := by
    intro group member
    rcases mem_placeEndpoint member with
      old | ⟨old, placed, -, rfl | ⟨former, formerMember, rfl, -⟩⟩
    · exact before.endpoints_nodup group old
    · rw [placed]
      exact nodup_putEndpoint endpoint List.nodup_nil
    · rw [placed]
      exact nodup_putEndpoint endpoint (before.endpoints_nodup former formerMember)
  belongs := by
    intro group member other otherMember
    rcases mem_placeEndpoint member with
      old | ⟨old, placed, owner, rfl | ⟨former, formerMember, rfl, sameApplication⟩⟩
    · exact before.belongs group old other otherMember
    · rw [placed] at otherMember
      rcases mem_putEndpoint otherMember with rfl | never
      · exact same.trans owner.symm
      · contradiction
    · rw [placed] at otherMember
      rcases mem_putEndpoint otherMember with rfl | kept
      · exact same.trans owner.symm
      · rw [← sameApplication]
        exact before.belongs former formerMember other kept

theorem mem_allEndpoints_placeEndpoint {application : Application} {endpoint other : Endpoint}
    {groups : List Registration}
    (member : other ∈ allEndpoints (placeEndpoint application endpoint groups)) :
    other = endpoint ∨ other ∈ allEndpoints groups := by
  rcases List.mem_flatMap.mp member with ⟨group, groupMember, inGroup⟩
  rcases mem_placeEndpoint groupMember with
    old | ⟨old, placed, -, rfl | ⟨former, formerMember, rfl, -⟩⟩
  · exact Or.inr (List.mem_flatMap.mpr ⟨group, old, inGroup⟩)
  · rw [placed] at inGroup
    exact Or.inl (List.mem_singleton.mp inGroup)
  · rw [placed] at inGroup
    rcases mem_putEndpoint inGroup with rfl | kept
    · exact Or.inl rfl
    · exact Or.inr (List.mem_flatMap.mpr ⟨former, formerMember, kept⟩)

/-- An endpoint that is placed is the one of its id from then on, provided that no
other application has one of that id. -/
theorem find?_allEndpoints_placeEndpoint {application : Application} {endpoint : Endpoint}
    {groups : List Registration}
    (alone : ∀ group ∈ groups, ∀ other ∈ group.endpoints, other.id = endpoint.id →
      group.application.applicationId = application.applicationId) (id : String) :
    (allEndpoints (placeEndpoint application endpoint groups)).find? (fun other => other.id = id) =
      if endpoint.id = id then some endpoint
      else (allEndpoints groups).find? fun other => other.id = id := by
  induction groups with
  | nil => by_cases same : endpoint.id = id <;> simp [placeEndpoint, same]
  | cons first rest ih =>
      have below := ih fun group member => alone group (List.mem_cons_of_mem first member)
      unfold placeEndpoint
      split
      · simp only [allEndpoints_cons, List.find?_append, find?_putEndpoint]
        by_cases same : endpoint.id = id <;> simp [same]
      · rename_i head
        simp only [allEndpoints_cons, List.find?_append, below]
        by_cases same : endpoint.id = id
        · have absent : first.endpoints.find? (fun other => other.id = id) = none := by
            rw [List.find?_eq_none]
            intro other member equal
            exact head (alone first List.mem_cons_self other member
              ((of_decide_eq_true equal).trans same.symm))
          simp [absent, same]
        · simp [same]

/-! ## Placing a batch -/

theorem grouped_concat (front : List (Application × Endpoint)) (last : Application × Endpoint) :
    grouped (front ++ [last]) = placeEndpoint last.1 last.2 (grouped front) :=
  List.foldl_concat ..

/-- The candidate of an application is its first record. -/
theorem candidateApplication_grouped (seen : List (Application × Endpoint)) (id : String) :
    candidateApplication (grouped seen) id = firstApplication seen id := by
  induction seen using List.reverseRecOn with
  | nil => rfl
  | append_singleton front last ih =>
      rw [grouped_concat, candidateApplication_placeEndpoint, ih]
      simp only [firstApplication, List.map_append, List.map_cons, List.map_nil,
        List.find?_append, List.find?_cons, List.find?_nil]
      by_cases same : last.1.applicationId = id <;> simp [same]

theorem exists_sighting_of_candidate {seen : List (Application × Endpoint)}
    {candidate : Registration} (member : candidate ∈ grouped seen) :
    ∃ sighting ∈ seen, sighting.1 = candidate.application := by
  induction seen using List.reverseRecOn generalizing candidate with
  | nil => simp [grouped] at member
  | append_singleton front last ih =>
      rw [grouped_concat] at member
      rcases application_of_mem_placeEndpoint member with new | ⟨former, old, same⟩
      · exact ⟨last, by simp, new.symm⟩
      · obtain ⟨sighting, inFront, first⟩ := ih old
        exact ⟨sighting, List.mem_append_left _ inFront, first.trans same⟩

theorem mem_allEndpoints_grouped {seen : List (Application × Endpoint)} {endpoint : Endpoint}
    (member : endpoint ∈ allEndpoints (grouped seen)) :
    ∃ sighting ∈ seen, sighting.2 = endpoint := by
  induction seen using List.reverseRecOn with
  | nil => simp [grouped] at member
  | append_singleton front last ih =>
      rw [grouped_concat] at member
      rcases mem_allEndpoints_placeEndpoint member with rfl | old
      · exact ⟨last, by simp, rfl⟩
      · rcases ih old with ⟨sighting, inFront, same⟩
        exact ⟨sighting, List.mem_append_left _ inFront, same⟩

section Batch

variable {seen : List (Application × Endpoint)}

theorem Grouped.of_seen
    (owns : ∀ sighting ∈ seen, sighting.2.applicationId = sighting.1.applicationId) :
    Grouped (grouped seen) := by
  induction seen using List.reverseRecOn with
  | nil => exact ⟨List.nodup_nil, by simp [grouped], by simp [grouped]⟩
  | append_singleton front last ih =>
      rw [grouped_concat]
      have before := ih fun sighting member => owns sighting (List.mem_append_left _ member)
      exact before.placeEndpoint (owns last (by simp))

/-- The candidate of an endpoint is its last record. -/
theorem find?_allEndpoints_grouped
    (owns : ∀ sighting ∈ seen, sighting.2.applicationId = sighting.1.applicationId)
    (separate : Separate seen) (id : String) :
    (allEndpoints (grouped seen)).find? (fun endpoint => endpoint.id = id) =
      lastEndpoint seen id := by
  induction seen using List.reverseRecOn with
  | nil => rfl
  | append_singleton front last ih =>
      have ownsFront : ∀ sighting ∈ front, sighting.2.applicationId = sighting.1.applicationId :=
        fun sighting member => owns sighting (List.mem_append_left _ member)
      have below := ih ownsFront separate.of_append
      rw [grouped_concat, find?_allEndpoints_placeEndpoint, below]
      · simp only [lastEndpoint, List.map_append, List.map_cons, List.map_nil,
          List.reverse_append, List.reverse_cons, List.reverse_nil, List.nil_append,
          List.cons_append, List.find?_cons]
        by_cases same : last.2.id = id <;> simp [same]
      · intro group groupMember other otherMember same
        have belongs := (Grouped.of_seen ownsFront).belongs group groupMember other otherMember
        obtain ⟨sighting, inFront, rfl⟩ :=
          mem_allEndpoints_grouped (List.mem_flatMap.mpr ⟨group, groupMember, otherMember⟩)
        rw [← belongs, ownsFront sighting inFront]
        exact separate sighting (List.mem_append_left _ inFront) last (by simp) same

/-- No two endpoints of the candidates have one id. -/
theorem nodup_allEndpoints_grouped
    (owns : ∀ sighting ∈ seen, sighting.2.applicationId = sighting.1.applicationId)
    (separate : Separate seen) : ((allEndpoints (grouped seen)).map Endpoint.id).Nodup := by
  have groups := Grouped.of_seen owns
  unfold allEndpoints
  rw [List.map_flatMap, List.nodup_flatMap]
  refine ⟨groups.endpoints_nodup, ?_⟩
  have apart := List.pairwise_map.mp groups.applications_nodup
  apply (List.Pairwise.and_mem.mp apart).imp
  rintro first second ⟨firstMember, secondMember, differ⟩ id inFirst inSecond
  obtain ⟨one, oneMember, rfl⟩ := List.mem_map.mp inFirst
  obtain ⟨other, otherMember, same⟩ := List.mem_map.mp inSecond
  apply differ
  rw [← groups.belongs first firstMember one oneMember,
    ← groups.belongs second secondMember other otherMember]
  obtain ⟨here, hereMember, rfl⟩ :=
    mem_allEndpoints_grouped (List.mem_flatMap.mpr ⟨first, firstMember, oneMember⟩)
  obtain ⟨there, thereMember, rfl⟩ :=
    mem_allEndpoints_grouped (List.mem_flatMap.mpr ⟨second, secondMember, otherMember⟩)
  rw [owns here hereMember, owns there thereMember]
  exact separate here hereMember there thereMember same.symm

end Batch

end FieldSurvey.Registry
