import FieldSurvey.Proofs.Identity
import FieldSurvey.Proofs.Registry.Weathering

/-!
# Failing runs spare what they have seen

However the calls of a run fail, nothing that the run has seen becomes lost, what could not be
written stands as it did, and what the run has missed is lost unless that failed and was
counted.  This holds of every registry that runs, failing or not, have made of an empty one:
there every endpoint is of an application of the same owner, as some run has seen it.
-/

namespace FieldSurvey.Registry

open Model (Application Endpoint ResultRecord)
open Identity (IsApplicationId)
open Time (Timestamp)

/-! ## Digests tell endpoints apart -/

/-- The text from which the id of an endpoint is derived. -/
def endpointText (endpoint : Endpoint) : String :=
  Identity.endpointSource endpoint.endpointUrl endpoint.applicationId endpoint.securityMode
    endpoint.securityPolicy

/-- No two texts from which the ids of endpoints are derived share a digest. -/
def CollisionFree (seen : List (Application × Endpoint)) : Prop :=
  ∀ first ∈ seen, ∀ second ∈ seen,
    Identity.digestText (endpointText first.2) = Identity.digestText (endpointText second.2) →
      endpointText first.2 = endpointText second.2

/-- The sightings of errands. -/
def seenBy (errands : List Errand) : List (Application × Endpoint) :=
  errands.flatMap Errand.seen

theorem derived_of_mem_sightings {discovererId : String} {results : List ResultRecord}
    {sighting : Application × Endpoint} (member : sighting ∈ sightings discovererId results) :
    sighting.2.id = Identity.endpointMark ++ Identity.digestText (endpointText sighting.2) ∧
      sighting.2.applicationId = sighting.1.applicationId ∧
      IsApplicationId sighting.1.applicationId := by
  obtain ⟨result, -, told⟩ := List.mem_filterMap.mp member
  obtain ⟨_, _, _, -, -, derived, rfl⟩ := sighting?_eq_some_iff.mp told
  exact ⟨rfl, rfl, _, _, _, derived⟩

/-- Without collisions the ids of endpoints tell applications apart. -/
theorem CollisionFree.separate {errands : List Errand} (free : CollisionFree (seenBy errands)) :
    Separate (seenBy errands) := by
  intro first firstMember second secondMember same
  obtain ⟨_, _, firstSeen⟩ := List.mem_flatMap.mp firstMember
  obtain ⟨_, _, secondSeen⟩ := List.mem_flatMap.mp secondMember
  obtain ⟨firstId, firstOwner, firstDerived⟩ := derived_of_mem_sightings firstSeen
  obtain ⟨secondId, secondOwner, secondDerived⟩ := derived_of_mem_sightings secondSeen
  have digests : Identity.digestText (endpointText first.2) =
      Identity.digestText (endpointText second.2) := by
    rw [firstId, secondId] at same
    exact (String.append_right_inj _).mp same
  rw [← firstOwner, ← secondOwner]
  exact Identity.applicationId_of_endpointSource (firstOwner ▸ firstDerived)
    (secondOwner ▸ secondDerived) (free first firstMember second secondMember digests)

theorem seenBy_concat (history : List Errand) (errand : Errand) :
    seenBy (history ++ [errand]) = seenBy history ++ errand.seen := by
  simp [seenBy]

theorem CollisionFree.of_concat {history : List Errand} {errand : Errand}
    (free : CollisionFree (seenBy (history ++ [errand]))) : CollisionFree (seenBy history) := by
  intro first firstMember second secondMember
  rw [seenBy_concat] at free
  exact free first (List.mem_append_left _ firstMember) second
    (List.mem_append_left _ secondMember)

theorem CollisionFree.separate_last {history : List Errand} {errand : Errand}
    (free : CollisionFree (seenBy (history ++ [errand]))) : Separate errand.seen := by
  have separate := free.separate
  rw [seenBy_concat] at separate
  intro first firstMember second secondMember
  exact separate first (List.mem_append_right _ firstMember) second
    (List.mem_append_right _ secondMember)

/-! ## Registries that runs have made -/

/-- A registry in which every endpoint is of an application of its owner, as one of some
sightings tells. -/
structure Housed (seen : List (Application × Endpoint)) (contents : Contents) : Prop where
  wellKept : contents.WellKept
  endpoints : ∀ id endpoint, contents.endpoints.get? id = some endpoint →
    ∃ owner, endpoint.discovererId = some owner ∧
      Store.IsOwned owner (contents.applications.get? endpoint.applicationId) ∧
      ∃ sighting ∈ seen, sighting.2.id = id ∧ sighting.2.applicationId = endpoint.applicationId

theorem exists_sighting_of_lastEndpoint {seen : List (Application × Endpoint)} {id : String}
    {endpoint : Endpoint} (sight : lastEndpoint seen id = some endpoint) :
    ∃ sighting ∈ seen, sighting.2 = endpoint ∧ endpoint.id = id := by
  obtain ⟨sighting, member, same⟩ :=
    List.mem_map.mp (List.mem_reverse.mp (List.mem_of_find?_eq_some sight))
  exact ⟨sighting, member, same, by simpa using List.find?_some sight⟩

theorem applicationId_of_mem_seenBy {errands : List Errand} {sighting : Application × Endpoint}
    (member : sighting ∈ seenBy errands) :
    sighting.2.applicationId = sighting.1.applicationId := by
  obtain ⟨errand, -, seen⟩ := List.mem_flatMap.mp member
  exact owns_seen errand sighting seen

section Housed

variable {history : List Errand} {errand : Errand} {contents : Contents}

theorem Housed.atHome (housed : Housed (seenBy history) contents)
    (separate : Separate (seenBy (history ++ [errand]))) : AtHome errand contents := by
  intro id seen owned sight
  obtain ⟨endpoint, present, isOwn⟩ := Store.isOwned_iff.mp owned
  obtain ⟨owner, isOwners, applicationOwned, before, inHistory, sameId, sameApplication⟩ :=
    housed.endpoints id endpoint present
  obtain ⟨now, inBatch, rfl, itsId⟩ := exists_sighting_of_lastEndpoint sight
  have inBefore : before ∈ seenBy (history ++ [errand]) := by
    rw [seenBy_concat]
    exact List.mem_append_left _ inHistory
  have inNow : now ∈ seenBy (history ++ [errand]) := by
    rw [seenBy_concat]
    exact List.mem_append_right _ inBatch
  have same := separate before inBefore now inNow (sameId.trans itsId.symm)
  rw [← applicationId_of_mem_seenBy inBefore, ← applicationId_of_mem_seenBy inNow,
    sameApplication] at same
  rw [← same, show errand.run.discovererId = owner from
    Option.some.inj (isOwn.symm.trans isOwners)]
  exact applicationOwned

/-- What a run writes of an endpoint that it has seen is of the application of which it was
seen. -/
theorem endpointPlan_of_sight {id : String} {seen entity : Endpoint} {present : Option Endpoint}
    (sight : lastEndpoint errand.seen id = some seen)
    (intended : endpointPlan errand.run errand.now errand.seen id present = some entity) :
    entity.discovererId = some errand.run.discovererId ∧
      entity.applicationId = seen.applicationId := by
  cases present with
  | none =>
      rw [endpointPlan, Treatment.outlook_free sight] at intended
      have told : lastEndpoint (sightings errand.run.discovererId errand.results) id = some seen :=
        sight
      have own := discovererId_of_lastEndpoint told
      cases intended
      exact ⟨own, rfl⟩
  | some former =>
      by_cases owned : Entity.discovererId former = some errand.run.discovererId
      · rw [endpointPlan, Treatment.outlook_owned sight owned] at intended
        have kept := NaturedEntity.discovererId_of_nature
          (keepsNature_refreshedEndpoint seen intended)
        refine ⟨kept.trans owned, ?_⟩
        obtain ⟨-, rfl⟩ := refreshedEndpoint_eq_some_iff.mp intended
        rfl
      · rw [endpointPlan, Treatment.outlook_foreign owned] at intended
        contradiction

/-- What a run writes of an endpoint that it has missed is of the application that it was
of. -/
theorem endpointPlan_of_missed {id : String} {entity : Endpoint} {present : Option Endpoint}
    (missed : lastEndpoint errand.seen id = none)
    (intended : endpointPlan errand.run errand.now errand.seen id present = some entity) :
    ∃ former, present = some former ∧ entity.discovererId = former.discovererId ∧
      entity.applicationId = former.applicationId := by
  cases present with
  | none =>
      rw [endpointPlan, Treatment.outlook_absent missed] at intended
      contradiction
  | some former =>
      refine ⟨former, rfl, endpointPlan_keepsOwners _ _ _ intended, ?_⟩
      by_cases owned : Entity.discovererId former = some errand.run.discovererId
      · rw [endpointPlan, Treatment.outlook_missed missed owned] at intended
        obtain ⟨-, rfl⟩ := lostEndpoint_eq_some_iff.mp intended
        rfl
      · rw [endpointPlan, Treatment.outlook_foreign owned] at intended
        contradiction

theorem Housed.weathered (housed : Housed (seenBy history) contents)
    {after : UnreliableRegistry} {applicationIds endpointIds : List String}
    {applicationFailures endpointFailures : Nat}
    (weathered : Weathered errand (.of contents) after applicationIds endpointIds
      applicationFailures endpointFailures) :
    Housed (seenBy (history ++ [errand])) after.contents where
  wellKept := ⟨weathered.applications.wellKept, weathered.endpoints.wellKept⟩
  endpoints := by
    intro id stored stands
    have stays : ∀ {owner applicationId},
        Store.IsOwned owner (contents.applications.get? applicationId) →
          Store.IsOwned owner (after.applications.store.get? applicationId) := fun owned =>
      weathered.applications.isOwned (applicationPlan_keepsOwners _ _ _) owned
    have known : ∀ endpoint, contents.endpoints.get? id = some endpoint →
        stored.discovererId = endpoint.discovererId →
        stored.applicationId = endpoint.applicationId →
        ∃ owner, stored.discovererId = some owner ∧
          Store.IsOwned owner (after.applications.store.get? stored.applicationId) ∧
          ∃ sighting ∈ seenBy (history ++ [errand]), sighting.2.id = id ∧
            sighting.2.applicationId = stored.applicationId := by
      intro endpoint present sameOwner sameApplication
      obtain ⟨owner, owned, home, sighting, inHistory, itsId, itsApplication⟩ :=
        housed.endpoints id endpoint present
      rw [sameOwner, sameApplication, seenBy_concat]
      exact ⟨owner, owned, stays home, sighting, List.mem_append_left _ inHistory, itsId,
        itsApplication⟩
    have here := weathered.endpoints.becomes id
    split at here
    · exact known stored (here.symm.trans stands) rfl rfl
    · rename_i entity intended
      obtain ⟨generation, wrote⟩ := here
      have isStored : stored = Entity.inGeneration (some generation) entity :=
        Option.some.inj (stands.symm.trans wrote)
      unfold Intent.within at intended
      split at intended
      · rename_i treated
        have member : id ∈ endpointIds := by
          simp only [Bool.and_eq_true, List.contains_iff_mem] at treated
          exact treated.1
        cases sight : lastEndpoint errand.seen id with
        | none =>
            obtain ⟨former, present, sameOwner, sameApplication⟩ :=
              endpointPlan_of_missed sight intended
            exact known former present (isStored ▸ sameOwner) (isStored ▸ sameApplication)
        | some seen =>
            obtain ⟨isOwn, isSeen⟩ := endpointPlan_of_sight sight intended
            obtain ⟨sighting, inBatch, rfl, itsId⟩ := exists_sighting_of_lastEndpoint sight
            have sameApplication : stored.applicationId = sighting.2.applicationId :=
              isStored ▸ isSeen
            rw [sameApplication, seenBy_concat]
            exact ⟨errand.run.discovererId, isStored ▸ isOwn, weathered.housed id member _ sight,
              sighting, List.mem_append_right _ inBatch, itsId, rfl⟩
      · contradiction

end Housed

/-- The registries that runs have made of an empty one, one after the other, whatever calls of
theirs failed. -/
inductive Reached (supply : Nat → String) : List Errand → Contents → Prop
  | empty : Reached supply [] {}
  | run {history : List Errand} {contents : Contents} (errand : Errand) (faults : FaultPattern)
      (reached : Reached supply history contents) :
      Reached supply (history ++ [errand])
        (errand.program.run (UnreliableRegistry.handler supply faults)
          (.of contents)).2.contents

theorem Reached.housed {supply : Nat → String} {history : List Errand} {contents : Contents}
    (reached : Reached supply history contents) (free : CollisionFree (seenBy history)) :
    Housed (seenBy history) contents := by
  induction reached with
  | empty =>
      have nothing : ∀ id, ({} : Store Endpoint).get? id = none := fun _ => rfl
      exact ⟨⟨Store.wellKept_empty, Store.wellKept_empty⟩, fun id endpoint present => by
        rw [nothing] at present
        contradiction⟩
  | @run history contents errand faults reached ih =>
      have housed := ih free.of_concat
      cases listing : faults.listing? with
      | some fault =>
          rw [(run_of_listing_fault errand contents listing).2]
          refine ⟨housed.wellKept, fun id endpoint present => ?_⟩
          obtain ⟨owner, owned, home, sighting, inHistory, same⟩ :=
            housed.endpoints id endpoint present
          rw [seenBy_concat]
          exact ⟨owner, owned, home, sighting, List.mem_append_left _ inHistory, same⟩
      | none =>
          obtain ⟨summary, after, _, _, _, _, ran, -, weathered⟩ :=
            run_of_listed supply free.separate_last housed.wellKept
              (housed.atHome free.separate) listing
          rw [ran]
          exact housed.weathered weathered

/-! ## What a failing run spares -/

/-- What is left of a registry after a run some of whose calls failed. -/
structure Spared (errand : Errand) (before : Contents) (after : UnreliableRegistry)
    (summary : Summary) : Prop where
  /-- an application of the discoverer that was seen is lost only if it was lost before -/
  applications_seen : ∀ id former, before.applications.get? id = some former →
    former.discovererId = some errand.run.discovererId →
    (∃ sighting ∈ errand.seen, sighting.1.applicationId = id) →
    ∃ stored, after.applications.store.get? id = some stored ∧ (stored.isLost → stored = former)
  endpoints_seen : ∀ id former, before.endpoints.get? id = some former →
    former.discovererId = some errand.run.discovererId →
    (∃ sighting ∈ errand.seen, sighting.2.id = id) →
    ∃ stored, after.endpoints.store.get? id = some stored ∧ (stored.isLost → stored = former)
  /-- what could not be written stands as it did -/
  applications_refused : ∀ id, after.applications.isRefused id →
    after.applications.store.get? id = before.applications.get? id
  endpoints_refused : ∀ id, after.endpoints.isRefused id →
    after.endpoints.store.get? id = before.endpoints.get? id
  /-- what was not seen is lost, or else stands as it did and is among the failures -/
  applications_missed : ∀ id former, before.applications.get? id = some former →
    former.discovererId = some errand.run.discovererId →
    (∀ sighting ∈ errand.seen, sighting.1.applicationId ≠ id) →
    ∃ stored, after.applications.store.get? id = some stored ∧
      (stored.isLost ∨ stored = former ∧ id ∈ after.applications.failures)
  endpoints_missed : ∀ id former, before.endpoints.get? id = some former →
    former.discovererId = some errand.run.discovererId →
    (∀ sighting ∈ errand.seen, sighting.2.id ≠ id) →
    ∃ stored, after.endpoints.store.get? id = some stored ∧
      (stored.isLost ∨ stored = former ∧ id ∈ after.endpoints.failures)
  /-- every failure is counted, and nothing else is -/
  failed_eq : summary.failed =
    after.applications.failures.length + after.endpoints.failures.length

section Spared

variable {α : Type} [Entity α] {treatment : Treatment α} {seen? : String → Option α}
  {ids : List String} {before after : UnreliableStore α} {failures : Nat} {id : String}
  {former : α}

theorem Treated.exists_of_seen
    (treated : Treated (treatment.outlook seen?) ids before after failures)
    (present : before.store.get? id = some former)
    (owned : Entity.discovererId former = some treatment.discovererId) {seen : α}
    (sight : seen? id = some seen) {isLost : α → Bool}
    (found : ∀ generation entity, treatment.revise seen former = some entity →
      isLost (Entity.inGeneration (some generation) entity) = false) :
    ∃ stored, after.store.get? id = some stored ∧ (isLost stored → stored = former) := by
  have here := treated.becomes id
  rw [present] at here
  split at here
  · exact ⟨former, here, fun _ => rfl⟩
  · rename_i entity intended
    obtain ⟨generation, wrote⟩ := here
    unfold Intent.within at intended
    split at intended
    · rw [Treatment.outlook_owned sight owned] at intended
      refine ⟨_, wrote, fun lost => ?_⟩
      rw [found generation entity intended] at lost
      contradiction
    · contradiction

theorem Treated.exists_of_missed
    (treated : Treated (treatment.outlook seen?) ids before after failures)
    (present : before.store.get? id = some former)
    (owned : Entity.discovererId former = some treatment.discovererId)
    (missed : seen? id = none) (member : id ∈ ids)
    (failed : after.isRefused id → after.isFailed id) {isLost : α → Bool}
    (lost : ∀ generation entity, treatment.lose former = some entity →
      isLost (Entity.inGeneration (some generation) entity))
    (already : treatment.lose former = none → isLost former) :
    ∃ stored, after.store.get? id = some stored ∧
      (isLost stored ∨ stored = former ∧ id ∈ after.failures) := by
  cases refused : after.isRefused id with
  | true =>
      rw [treated.get?_of_isRefused refused, present]
      exact ⟨former, rfl, Or.inr ⟨rfl, UnreliableStore.mem_failures.mpr (failed refused)⟩⟩
  | false =>
      have intended : (treatment.outlook seen?).within
          (fun id => ids.contains id && !after.isRefused id) id (before.store.get? id) =
            treatment.lose former := by
        rw [present, ← Treatment.outlook_missed missed owned]
        simp [Intent.within, member, refused]
      cases change : treatment.lose former with
      | none =>
          rw [treated.becomes.kept (intended.trans change), present]
          exact ⟨former, rfl, Or.inl (already change)⟩
      | some entity =>
          obtain ⟨generation, wrote⟩ := treated.becomes.written (intended.trans change)
          exact ⟨_, wrote, Or.inl (lost generation entity change)⟩

end Spared

theorem firstApplication_eq_none_iff_forall {seen : List (Application × Endpoint)} {id : String} :
    firstApplication seen id = none ↔ ∀ sighting ∈ seen, sighting.1.applicationId ≠ id := by
  simp [firstApplication]

theorem lastEndpoint_eq_none_iff_forall {seen : List (Application × Endpoint)} {id : String} :
    lastEndpoint seen id = none ↔ ∀ sighting ∈ seen, sighting.2.id ≠ id := by
  rw [lastEndpoint, List.find?_eq_none]
  constructor
  · intro none sighting member
    simpa using none sighting.2 (List.mem_reverse.mpr (List.mem_map_of_mem member))
  · intro unsighted endpoint member
    obtain ⟨sighting, inSeen, rfl⟩ := List.mem_map.mp (List.mem_reverse.mp member)
    simpa using unsighted sighting inSeen

theorem Weathered.spared {errand : Errand} {before : Contents} {after : UnreliableRegistry}
    {applicationIds endpointIds : List String} {applicationFailures endpointFailures : Nat}
    (weathered : Weathered errand (.of before) after applicationIds endpointIds
      applicationFailures endpointFailures) {summary : Summary}
    (failed : summary.failed = applicationFailures + endpointFailures) :
    Spared errand before after summary where
  applications_seen := by
    rintro id former present owned ⟨sighting, member, itsId⟩
    cases sight : firstApplication errand.seen id with
    | none => exact absurd itsId (firstApplication_eq_none_iff_forall.mp sight sighting member)
    | some seen =>
        refine weathered.applications.exists_of_seen present owned sight ?_
        intro generation entity change
        have isFound : entity.isLost = false := isLost_refreshedApplication change
        exact isFound
  endpoints_seen := by
    rintro id former present owned ⟨sighting, member, itsId⟩
    cases sight : lastEndpoint errand.seen id with
    | none => exact absurd itsId (lastEndpoint_eq_none_iff_forall.mp sight sighting member)
    | some seen =>
        refine weathered.endpoints.exists_of_seen present owned sight ?_
        intro generation entity change
        have isFound : entity.isLost = false := isLost_refreshedEndpoint change
        exact isFound
  applications_refused id refused := weathered.applications.get?_of_isRefused refused
  endpoints_refused id refused := weathered.endpoints.get?_of_isRefused refused
  applications_missed := by
    intro id former present owned unsighted
    have missed := firstApplication_eq_none_iff_forall.mpr unsighted
    have isOwned : Store.IsOwned errand.run.discovererId (before.applications.get? id) := by
      exact Store.isOwned_iff.mpr ⟨former, present, owned⟩
    obtain ⟨member, failures⟩ := weathered.applications_missed id isOwned missed
    refine weathered.applications.exists_of_missed present owned missed member failures ?_ ?_
    · intro generation entity change
      have isLost : entity.isLost := isLost_lostApplication change
      exact isLost
    · intro unchanged
      exact lostApplication_eq_none_iff.mp unchanged
  endpoints_missed := by
    intro id former present owned unsighted
    have missed := lastEndpoint_eq_none_iff_forall.mpr unsighted
    have isOwned : Store.IsOwned errand.run.discovererId (before.endpoints.get? id) := by
      exact Store.isOwned_iff.mpr ⟨former, present, owned⟩
    obtain ⟨member, failures⟩ := weathered.endpoints_missed id isOwned missed
    refine weathered.endpoints.exists_of_missed present owned missed member failures ?_ ?_
    · intro generation entity change
      have isLost : entity.isLost := isLost_lostEndpoint change
      exact isLost
    · intro unchanged
      exact lostEndpoint_eq_none_iff.mp unchanged
  failed_eq := by
    rw [weathered.applications.length_failures weathered.applications_nodup fun _ => rfl,
      weathered.endpoints.length_failures weathered.endpoints_nodup fun _ => rfl, failed]

/-- A failing run spares what it has seen.  In every registry that runs have made, failing or
not, and whatever calls of it fail, a run that can list the entities of its discoverer ends
with a summary and leaves the registry spared; one that cannot ends with that fault and
leaves the registry as it is. -/
theorem faults_spare_what_was_seen (supply : Nat → String) (history : List Errand)
    (before : Contents) (reached : Reached supply history before) (errand : Errand)
    (free : CollisionFree (seenBy (history ++ [errand]))) (faults : FaultPattern) :
    let ran := errand.program.run (UnreliableRegistry.handler supply faults) (.of before)
    match faults.listing? with
    | some fault => ran.1 = .error fault ∧ ran.2.contents = before
    | none => ∃ summary, ran.1 = .ok summary ∧ Spared errand before ran.2 summary := by
  have housed := reached.housed free.of_concat
  cases listing : faults.listing? with
  | some fault => exact run_of_listing_fault errand before listing
  | none =>
      obtain ⟨summary, after, _, _, _, _, ran, failed, weathered⟩ :=
        run_of_listed supply free.separate_last housed.wellKept (housed.atHome free.separate)
          listing
      simp only [ran]
      exact ⟨summary, rfl, weathered.spared failed⟩

/-- An errand that sees one server at one url. -/
def smallErrand : Errand where
  run := smallRun
  now := Timestamp.epoch
  results := [recordOf "opc.tcp://a"]

/-- Only the listings are answered. -/
def onlyListings : FaultPattern where
  applications number := if number = 0 then none else some (.storage "disk full")
  endpoints number := if number = 0 then none else some (.storage "disk full")

theorem sighting_of_mem_seenBy_small {errands : List Errand}
    (all : ∀ errand ∈ errands, errand = smallErrand) {sighting : Application × Endpoint}
    (member : sighting ∈ seenBy errands) :
    sighting? smallRun.discovererId (recordOf "opc.tcp://a") = some sighting := by
  obtain ⟨errand, inErrands, seen⟩ := List.mem_flatMap.mp member
  rw [all errand inErrands] at seen
  obtain ⟨result, isOnly, told⟩ := List.mem_filterMap.mp seen
  rwa [List.mem_singleton.mp isOnly] at told

theorem second_errand_spares_the_first :
    ∃ before : Contents, Reached toString [smallErrand] before ∧
      CollisionFree (seenBy ([smallErrand] ++ [smallErrand])) ∧
      ∃ summary,
        (smallErrand.program.run (UnreliableRegistry.handler toString onlyListings)
          (.of before)).1 = .ok summary ∧
        Spared smallErrand before
          (smallErrand.program.run (UnreliableRegistry.handler toString onlyListings)
            (.of before)).2 summary := by
  have reached := Reached.run smallErrand ⟨fun _ => none, fun _ => none⟩ 
    (Reached.empty : Reached toString [] {})
  have free : CollisionFree (seenBy ([smallErrand] ++ [smallErrand])) := by
    intro first firstMember second secondMember _
    have all : ∀ errand ∈ [smallErrand] ++ [smallErrand], errand = smallErrand := by simp
    have same := (sighting_of_mem_seenBy_small all firstMember).symm.trans
      (sighting_of_mem_seenBy_small all secondMember)
    rw [Option.some.inj same]
  exact ⟨_, reached, free,
    faults_spare_what_was_seen toString [smallErrand] _ reached smallErrand free onlyListings⟩

end FieldSurvey.Registry
