import FieldSurvey.Proofs.Registry.Hardship

/-!
# What a failing run makes of a registry

A run that can list the entities of its discoverer treats all of these that it has missed, and
some that it has seen, however its later calls fail.  It comes to nothing that it has seen when
it makes entities lost, provided that the discoverer owns the applications of its endpoints.
A run that cannot list them leaves everything as it is.
-/

namespace FieldSurvey.Registry

open Model (Application Endpoint Registration)

/-- Whether a discoverer owns the applications of its endpoints that a run has seen. -/
def AtHome (errand : Errand) (contents : Contents) : Prop :=
  ∀ id seen, Store.IsOwned errand.run.discovererId (contents.endpoints.get? id) →
    lastEndpoint errand.seen id = some seen →
      Store.IsOwned errand.run.discovererId (contents.applications.get? seen.applicationId)

/-- What a run has made of a registry whose calls may fail.  It has treated some
applications and endpoints, among them all that its discoverer owns and it has missed. -/
structure Weathered (errand : Errand) (before after : UnreliableRegistry)
    (applicationIds endpointIds : List String) (applicationFailures endpointFailures : Nat) :
    Prop where
  applications : Treated (applicationPlan errand.run errand.now errand.seen) applicationIds
    before.applications after.applications applicationFailures
  endpoints : Treated (endpointPlan errand.run errand.now errand.seen) endpointIds
    before.endpoints after.endpoints endpointFailures
  applications_nodup : applicationIds.Nodup
  endpoints_nodup : endpointIds.Nodup
  applications_missed : ∀ id,
    Store.IsOwned errand.run.discovererId (before.applications.store.get? id) →
    firstApplication errand.seen id = none →
      id ∈ applicationIds ∧ (after.applications.isRefused id → after.applications.isFailed id)
  endpoints_missed : ∀ id,
    Store.IsOwned errand.run.discovererId (before.endpoints.store.get? id) →
    lastEndpoint errand.seen id = none →
      id ∈ endpointIds ∧ (after.endpoints.isRefused id → after.endpoints.isFailed id)
  /-- endpoints that were seen are treated only for applications that the discoverer owns -/
  housed : ∀ id ∈ endpointIds, ∀ seen, lastEndpoint errand.seen id = some seen →
    Store.IsOwned errand.run.discovererId (after.applications.store.get? seen.applicationId)

theorem sighted_grouped {errand : Errand} (separate : Separate errand.seen) :
    Sighted errand.run errand.seen (grouped errand.seen) := by
  have owns : ∀ sighting ∈ errand.seen, sighting.2.applicationId = sighting.1.applicationId :=
    fun sighting => ids_of_mem_sightings
  have groups := Grouped.of_seen owns
  have applicationsNodup : (((grouped errand.seen).map Registration.application).map
      Entity.id).Nodup := by
    rw [List.map_map]
    exact groups.applications_nodup
  constructor
  · intro candidate member
    rw [← firstOf_grouped]
    exact firstOf_of_mem applicationsNodup (List.mem_map_of_mem member)
  · intro endpoint member
    rw [← find?_allEndpoints_grouped owns separate]
    exact firstOf_of_mem (nodup_allEndpoints_grouped owns separate) member
  · intro candidate member
    obtain ⟨sighting, inBatch, same⟩ := exists_sighting_of_candidate member
    exact same ▸ (discovererId_of_mem_sightings inBatch).1
  · exact groups.belongs

theorem applicationId_mem_listedFor {run : Run} {contents : Contents} (kept : contents.WellKept)
    {id : String} : id ∈ (listedFor run contents).applications ↔
      Store.IsOwned run.discovererId (contents.applications.get? id) :=
  kept.applications.mem_ownedBy_ids_iff_isOwned run.discovererId id

theorem endpointId_mem_listedFor {run : Run} {contents : Contents} (kept : contents.WellKept)
    {id : String} : id ∈ (listedFor run contents).endpoints ↔
      Store.IsOwned run.discovererId (contents.endpoints.get? id) :=
  kept.endpoints.mem_ownedBy_ids_iff_isOwned run.discovererId id

theorem firstApplication_eq_none_iff {seen : List (Application × Endpoint)} {id : String} :
    firstApplication seen id = none ↔
      id ∉ (grouped seen).map (·.application.applicationId) := by
  have ids : firstOf ((grouped seen).map Registration.application) id = none ↔ _ :=
    firstOf_eq_none_iff
  rw [firstOf_grouped, List.map_map] at ids
  exact ids

section Batch

variable {errand : Errand}

theorem owns_seen (errand : Errand) :
    ∀ sighting ∈ errand.seen, sighting.2.applicationId = sighting.1.applicationId :=
  fun _ => ids_of_mem_sightings

theorem lastEndpoint_eq_none_iff (separate : Separate errand.seen) {id : String} :
    lastEndpoint errand.seen id = none ↔
      id ∉ (allEndpoints (grouped errand.seen)).map Endpoint.id := by
  rw [← find?_allEndpoints_grouped (owns_seen errand) separate]
  exact firstOf_eq_none_iff

variable {before middle : UnreliableRegistry} {fresh : Seen} {written : List Endpoint}
  {applicationFailures endpointFailures : Nat}

/-- What is listed and not accounted for is what was not seen. -/
theorem mem_missing_applications (kept : before.contents.WellKept)
    (wrote : CandidatesWritten errand.run errand.now errand.seen
      (listedFor errand.run before.contents) (grouped errand.seen) before middle fresh written
      applicationFailures endpointFailures) {id : String} :
    id ∈ missing (listedFor errand.run before.contents).applications fresh.applications ↔
      Store.IsOwned errand.run.discovererId (before.applications.store.get? id) ∧
        firstApplication errand.seen id = none := by
  rw [mem_missing, firstApplication_eq_none_iff, applicationId_mem_listedFor kept]
  refine and_congr_right fun owned => not_congr ⟨fun seen => ?_, fun seen => ?_⟩
  · exact wrote.applications_subset seen
  · obtain ⟨candidate, member, rfl⟩ := List.mem_map.mp seen
    exact (wrote.complete candidate member ((applicationId_mem_listedFor kept).mpr owned)).1

theorem mem_missing_endpoints (kept : before.contents.WellKept)
    (separate : Separate errand.seen) (atHome : AtHome errand before.contents)
    (wrote : CandidatesWritten errand.run errand.now errand.seen
      (listedFor errand.run before.contents) (grouped errand.seen) before middle fresh written
      applicationFailures endpointFailures) {id : String} :
    id ∈ missing (listedFor errand.run before.contents).endpoints fresh.endpoints ↔
      Store.IsOwned errand.run.discovererId (before.endpoints.store.get? id) ∧
        lastEndpoint errand.seen id = none := by
  rw [mem_missing, lastEndpoint_eq_none_iff separate, endpointId_mem_listedFor kept]
  refine and_congr_right fun owned => not_congr ⟨fun seen => ?_, fun seen => ?_⟩
  · exact wrote.endpoints_subset seen
  · obtain ⟨endpoint, member, rfl⟩ := List.mem_map.mp seen
    -- the discoverer owns the application of the endpoint, so that this was listed
    have sight := (sighted_grouped separate).endpoints endpoint member
    have applicationOwned := atHome endpoint.id endpoint owned sight
    obtain ⟨candidate, inGroups, inCandidate⟩ := List.mem_flatMap.mp member
    have belongs := (Grouped.of_seen (owns_seen errand)).belongs candidate inGroups endpoint
      inCandidate
    have isListed := (applicationId_mem_listedFor kept).mpr applicationOwned
    exact (wrote.complete candidate inGroups (belongs ▸ isListed)).2 endpoint inCandidate

namespace CandidatesWritten

theorem applications_apart (kept : before.contents.WellKept)
    (wrote : CandidatesWritten errand.run errand.now errand.seen
      (listedFor errand.run before.contents) (grouped errand.seen) before middle fresh written
      applicationFailures endpointFailures) :
    ∀ id ∈ (grouped errand.seen).map (·.application.applicationId),
      id ∉ missing (listedFor errand.run before.contents).applications fresh.applications := by
  intro id seen missed
  exact firstApplication_eq_none_iff.mp ((mem_missing_applications kept wrote).mp missed).2 seen

theorem endpoints_apart (kept : before.contents.WellKept) (separate : Separate errand.seen)
    (atHome : AtHome errand before.contents)
    (wrote : CandidatesWritten errand.run errand.now errand.seen
      (listedFor errand.run before.contents) (grouped errand.seen) before middle fresh written
      applicationFailures endpointFailures) :
    ∀ id ∈ written.map Endpoint.id,
      id ∉ missing (listedFor errand.run before.contents).endpoints fresh.endpoints := by
  intro id isWritten missed
  exact (lastEndpoint_eq_none_iff separate).mp
    ((mem_missing_endpoints kept separate atHome wrote).mp missed).2
    ((wrote.sublist.map Endpoint.id).subset isWritten)

/-- A run consists in writing what it has seen, and then in losing what it has missed. -/
theorem weathered (kept : before.contents.WellKept) (separate : Separate errand.seen)
    (atHome : AtHome errand before.contents)
    (wrote : CandidatesWritten errand.run errand.now errand.seen
      (listedFor errand.run before.contents) (grouped errand.seen) before middle fresh written
      applicationFailures endpointFailures)
    {after : UnreliableRegistry} {moreApplications moreEndpoints : Nat}
    (applications : Treated (applicationPlan errand.run errand.now errand.seen)
      (missing (listedFor errand.run before.contents).applications fresh.applications)
      middle.applications after.applications moreApplications)
    (endpoints : Treated (endpointPlan errand.run errand.now errand.seen)
      (missing (listedFor errand.run before.contents).endpoints fresh.endpoints)
      middle.endpoints after.endpoints moreEndpoints)
    (failedApplications :
      ∀ id ∈ missing (listedFor errand.run before.contents).applications fresh.applications,
        after.applications.isRefused id → after.applications.isFailed id)
    (failedEndpoints :
      ∀ id ∈ missing (listedFor errand.run before.contents).endpoints fresh.endpoints,
        after.endpoints.isRefused id → after.endpoints.isFailed id) :
    Weathered errand before after
      ((grouped errand.seen).map (·.application.applicationId) ++
        missing (listedFor errand.run before.contents).applications fresh.applications)
      (written.map Endpoint.id ++
        missing (listedFor errand.run before.contents).endpoints fresh.endpoints)
      (applicationFailures + moreApplications) (endpointFailures + moreEndpoints) where
  applications := wrote.applications.append applications (wrote.applications_apart kept)
  endpoints := wrote.endpoints.append endpoints (wrote.endpoints_apart kept separate atHome)
  applications_nodup :=
    (Grouped.of_seen (owns_seen errand)).applications_nodup.append
      (nodup_missing_applications kept errand.run fresh.applications)
      fun id => wrote.applications_apart kept id
  endpoints_nodup :=
    ((nodup_allEndpoints_grouped (owns_seen errand) separate).sublist
      (wrote.sublist.map Endpoint.id)).append
      (nodup_missing_endpoints kept errand.run fresh.endpoints)
      fun id => wrote.endpoints_apart kept separate atHome id
  applications_missed id owned unsighted := by
    have missed := (mem_missing_applications kept wrote).mpr ⟨owned, unsighted⟩
    exact ⟨List.mem_append_right _ missed, failedApplications id missed⟩
  endpoints_missed id owned unsighted := by
    have missed := (mem_missing_endpoints kept separate atHome wrote).mpr ⟨owned, unsighted⟩
    exact ⟨List.mem_append_right _ missed, failedEndpoints id missed⟩
  housed := by
    intro id member seen sightedHere
    rcases List.mem_append.mp member with isWritten | missed
    · rcases List.mem_map.mp isWritten with ⟨endpoint, inWritten, rfl⟩
      have itself := (sighted_grouped separate).endpoints endpoint
        (wrote.sublist.subset inWritten)
      rw [itself] at sightedHere
      rw [← Option.some.inj sightedHere]
      exact applications.isOwned
        (applicationPlan_keepsOwners errand.run errand.now errand.seen)
        (wrote.owned endpoint inWritten)
    · rw [((mem_missing_endpoints kept separate atHome wrote).mp missed).2] at sightedHere
      contradiction

end CandidatesWritten

end Batch

/-- What the discoverer owns and the run has missed stands as it did, to be lost. -/
theorem Treated.exists_to_lose {α : Type} [Entity α] {treatment : Treatment α}
    {seen? : String → Option α} {ids : List String} {before middle : UnreliableStore α}
    {failures : Nat} {id : String}
    (treated : Treated (treatment.outlook seen?) ids before middle failures) (absent : id ∉ ids)
    (owned : Store.IsOwned treatment.discovererId (before.store.get? id))
    (unsighted : seen? id = none) :
    ∃ current, middle.store.get? id = some current ∧
      treatment.outlook seen? id (some current) = treatment.lose current := by
  rw [treated.get?_of_not_mem absent]
  obtain ⟨current, present, isOwn⟩ := Store.isOwned_iff.mp owned
  exact ⟨current, present, Treatment.outlook_missed unsighted isOwn⟩

variable {supply : Nat → String} {faults : FaultPattern}

variable (supply faults) in
/-- A run whose listings were answered. -/
theorem run_reconcileListed_unreliable {errand : Errand} (separate : Separate errand.seen)
    (before : UnreliableRegistry) (kept : before.contents.WellKept)
    (atHome : AtHome errand before.contents) :
    ∃ summary after applicationIds endpointIds applicationFailures endpointFailures,
      (reconcileListed errand.run errand.now errand.results
          (listedFor errand.run before.contents)).run
            (UnreliableRegistry.handler supply faults) before = (.ok summary, after) ∧
      summary.failed = applicationFailures + endpointFailures ∧
      Weathered errand before after applicationIds endpointIds applicationFailures
        endpointFailures := by
  let listed := listedFor errand.run before.contents
  have announced : Announced errand.run listed before.contents (grouped errand.seen) :=
    { applications := fun candidate _ => kept.applications.mem_ownedBy_ids _ _
      endpoints := fun endpoint _ => kept.endpoints.mem_ownedBy_ids _ _ }
  obtain ⟨fresh, written, m, n, counted, middle, ran, failed, wrote⟩ :=
    run_writeCandidates_unreliable supply faults errand.now before (sighted_grouped separate)
      (Grouped.of_seen (owns_seen errand)).applications_nodup
      (nodup_allEndpoints_grouped (owns_seen errand) separate) kept announced {}
      { skipped := errand.results.countP (isNameless errand.run.discovererId) }
  have toLoseApplications : ∀ id ∈ missing listed.applications fresh.applications, ∃ current,
      middle.applications.store.get? id = some current ∧
        applicationPlan errand.run errand.now errand.seen id (some current) =
          lostApplication errand.run errand.now current := by
    intro id missed
    obtain ⟨owned, unsighted⟩ := (mem_missing_applications kept wrote).mp missed
    exact wrote.applications.exists_to_lose
      (fun seen => wrote.applications_apart kept id seen missed) owned unsighted
  have toLoseEndpoints : ∀ id ∈ missing listed.endpoints fresh.endpoints, ∃ current,
      middle.endpoints.store.get? id = some current ∧
        endpointPlan errand.run errand.now errand.seen id (some current) =
          lostEndpoint errand.now current := by
    intro id missed
    obtain ⟨owned, unsighted⟩ := (mem_missing_endpoints kept separate atHome wrote).mp missed
    exact wrote.endpoints.exists_to_lose
      (fun seen => wrote.endpoints_apart kept separate atHome id seen missed) owned unsighted
  obtain ⟨countedApplications, applications, mMissed, ranApplications, failedApplications,
      treatedApplications, refusedApplications⟩ :=
    run_loseApplications_unreliable supply faults middle
      (nodup_missing_applications kept errand.run fresh.applications)
      wrote.applications.wellKept toLoseApplications counted
  obtain ⟨summary, endpoints, nMissed, ranEndpoints, failedEndpoints, treatedEndpoints,
      refusedEndpoints⟩ :=
    run_loseEndpoints_unreliable supply faults { middle with applications }
      (nodup_missing_endpoints kept errand.run fresh.endpoints)
      wrote.endpoints.wellKept toLoseEndpoints countedApplications
  refine ⟨summary, { applications, endpoints }, _, _, m + mMissed, n + nMissed, ?_, ?_,
    wrote.weathered kept separate atHome treatedApplications treatedEndpoints
      refusedApplications refusedEndpoints⟩
  · have accounted : ({} : Seen).plus fresh = fresh := by simp [Seen.plus]
    simp only [reconcileListed, Program.bind_eq, Program.run_bind]
    rw [show sightings errand.run.discovererId errand.results = errand.seen from rfl, ran,
      accounted]
    rw [ranApplications, ranEndpoints]
    rfl
  · have none : ({ skipped := errand.results.countP (isNameless errand.run.discovererId) } :
        Summary).failed = 0 := rfl
    omega

/-! ## Listings -/

/-- The fault with which a run fails because its entities cannot be listed. -/
def FaultPattern.listing? (faults : FaultPattern) : Option Fault :=
  (faults.applications 0).or (faults.endpoints 0)

/-- A run that cannot list the entities of its discoverer changes nothing. -/
theorem run_of_listing_fault (errand : Errand) (contents : Contents) {fault : Fault}
    (fails : faults.listing? = some fault) :
    (errand.program.run (UnreliableRegistry.handler supply faults) (.of contents)).1 =
        .error fault ∧
      (errand.program.run (UnreliableRegistry.handler supply faults) (.of contents)).2.contents =
        contents := by
  rw [Errand.program, reconcile_eq]
  unfold FaultPattern.listing? at fails
  cases first : faults.applications 0 with
  | some other =>
      have refused : UnreliableStore.handler supply faults.applications
          (.listBy errand.run.discovererId) (UnreliableRegistry.of contents).applications = _ :=
        handler_of_fault _ first
      rw [first, Option.some_or] at fails
      simp only [Program.run_call, UnreliableRegistry.handler, refused]
      exact ⟨congrArg Except.error (Option.some.inj fails), rfl⟩
  | none =>
      have listed : UnreliableStore.handler supply faults.applications
          (.listBy errand.run.discovererId) (UnreliableRegistry.of contents).applications = _ :=
        handler_of_reached _ first
      rw [first, Option.none_or] at fails
      have refused : UnreliableStore.handler supply faults.endpoints
          (.listBy errand.run.discovererId) (UnreliableRegistry.of contents).endpoints = _ :=
        handler_of_fault _ fails
      simp only [Program.run_call, UnreliableRegistry.handler, listed, Store.handler_listBy,
        refused]
      exact ⟨rfl, rfl⟩

variable (supply) in
/-- What a run that can list the entities of its discoverer makes of a registry. -/
theorem run_of_listed {errand : Errand} (separate : Separate errand.seen) {contents : Contents}
    (kept : contents.WellKept) (atHome : AtHome errand contents)
    (reached : faults.listing? = none) :
    ∃ summary after applicationIds endpointIds applicationFailures endpointFailures,
      errand.program.run (UnreliableRegistry.handler supply faults) (.of contents) =
        (.ok summary, after) ∧
      summary.failed = applicationFailures + endpointFailures ∧
      Weathered errand (.of contents) after applicationIds endpointIds applicationFailures
        endpointFailures := by
  obtain ⟨first, second⟩ := Option.or_eq_none_iff.mp reached
  have listedApplications : UnreliableStore.handler supply faults.applications
      (.listBy errand.run.discovererId) (UnreliableRegistry.of contents).applications = _ :=
    handler_of_reached _ first
  have listedEndpoints : UnreliableStore.handler supply faults.endpoints
      (.listBy errand.run.discovererId) (UnreliableRegistry.of contents).endpoints = _ :=
    handler_of_reached _ second
  let listed : UnreliableRegistry :=
    { applications :=
        ⟨contents.applications, [⟨.listBy errand.run.discovererId,
          .ok (contents.applications.ownedBy errand.run.discovererId)⟩]⟩
      endpoints :=
        ⟨contents.endpoints, [⟨.listBy errand.run.discovererId,
          .ok (contents.endpoints.ownedBy errand.run.discovererId)⟩]⟩ }
  obtain ⟨summary, after, applicationIds, endpointIds, m, n, ran, failed, weathered⟩ :=
    run_reconcileListed_unreliable supply faults separate listed kept atHome
  refine ⟨summary, after, applicationIds, endpointIds, m, n, ?_, failed,
    { weathered with
      applications := weathered.applications.of_preceded rfl fun _ _ => rfl
      endpoints := weathered.endpoints.of_preceded rfl fun _ _ => rfl }⟩
  rw [Errand.program, reconcile_eq]
  simp only [Program.run_call, UnreliableRegistry.handler, listedApplications,
    Store.handler_listBy, listedEndpoints]
  exact ran

end FieldSurvey.Registry
