import FieldSurvey.Proofs.Registry.Persistence
import FieldSurvey.Proofs.Registry.Reconciliation

/-!
# Scanning again

A run leaves a registry in which the same batch has nothing left to write: what it has seen is
stored as it was seen, what it has missed is lost, and what is somebody else's is not its
concern.  A second run with that batch therefore reads and counts, and writes nothing.
-/

namespace FieldSurvey.Registry

open Model (Application Endpoint Registration ResultRecord)
open Time (Timestamp)

variable {supply : Nat → String}

/-! ## Nothing to write -/

section Store

variable {α : Type} [Entity α] {store : Store α} {id : String} {change : α → Option α}

variable (supply) in
theorem Store.revised_of_idle (idle : (store.get? id).bind change = none) :
    (store.revised supply id change).2 = store := by
  unfold Store.revised
  cases found : store.get? id with
  | none => rfl
  | some current =>
      have unchanged : change current = none := by simpa [found] using idle
      simp only [unchanged]

variable (supply) in
theorem Store.revisedAll_of_idle {ids : List String}
    (idle : ∀ id ∈ ids, (store.get? id).bind change = none) :
    store.revisedAll supply change ids = store := by
  induction ids with
  | nil => rfl
  | cons first rest ih =>
      have here := revised_of_idle supply (idle first List.mem_cons_self)
      have later := ih fun id member => idle id (List.mem_cons_of_mem first member)
      simp only [revisedAll, List.foldl_cons, here] at later ⊢
      exact later

variable (supply) in
theorem Store.upserted_of_idle {discovererId : String} {entity : α}
    (idle : Store.upsert discovererId entity change (store.get? id) = none) :
    store.upserted supply discovererId entity change id = store := by
  unfold Store.upserted
  cases found : store.get? id with
  | none => simp [found, Store.upsert] at idle
  | some stored =>
      by_cases owned : Entity.discovererId stored = some discovererId
      · simp only [found, Store.upsert, owned, if_true] at idle ⊢
        exact revised_of_idle supply (by simpa [found] using idle)
      · simp only [owned, if_false]

end Store

variable (supply) in
/-- The endpoints of a candidate are stored as they were seen. -/
theorem run_writeEndpoints_of_idle {run : Run} {listed : Listed} {endpoints : List Endpoint}
    {contents : Contents} (kept : contents.endpoints.WellKept)
    (announced : ∀ endpoint ∈ endpoints,
      Announces contents.endpoints run.discovererId listed.endpoints endpoint.id)
    (idle : ∀ endpoint ∈ endpoints, Store.upsert run.discovererId (newEndpoint endpoint)
      (refreshedEndpoint endpoint) (contents.endpoints.get? endpoint.id) = none)
    (seen : Seen) (summary : Summary) :
    ((writeEndpoints run listed endpoints seen summary).run (Contents.handler supply)
      contents).2 = contents := by
  induction endpoints generalizing seen summary with
  | nil => rfl
  | cons first rest ih =>
      have ran := run_writeEndpoint supply kept run listed.endpoints first summary
        (announced first List.mem_cons_self)
      rw [Store.upserted_of_idle supply (idle first List.mem_cons_self)] at ran
      simp only [writeEndpoints, Program.bind_eq, Program.run_bind, ran]
      exact ih (fun endpoint member => announced endpoint (List.mem_cons_of_mem first member))
        (fun endpoint member => idle endpoint (List.mem_cons_of_mem first member)) _ _

variable (supply) in
/-- The candidates are stored as they were seen, or else somebody else's. -/
theorem run_writeCandidates_of_idle {run : Run} {listed : Listed}
    {candidates : List Registration} {contents : Contents} (kept : contents.WellKept)
    (announced : Announced run listed contents candidates)
    (idleApplications : ∀ application ∈ candidates.map Registration.application,
      Store.upsert run.discovererId (newApplication run application)
        (refreshedApplication run application)
        (contents.applications.get? application.applicationId) = none)
    (idleEndpoints : ∀ endpoint ∈ allEndpoints (writable run contents.applications candidates),
      Store.upsert run.discovererId (newEndpoint endpoint) (refreshedEndpoint endpoint)
        (contents.endpoints.get? endpoint.id) = none)
    (seen : Seen) (summary : Summary) :
    ((writeCandidates run listed candidates seen summary).run (Contents.handler supply)
      contents).2 = contents := by
  induction candidates generalizing seen summary with
  | nil => rfl
  | cons first rest ih =>
      have ran := run_writeApplication supply kept.applications run listed.applications
        first.application summary (announced.applications first List.mem_cons_self)
      rw [Store.upserted_of_idle supply
        (idleApplications first.application List.mem_cons_self)] at ran
      rw [writable_cons, allEndpoints_append] at idleEndpoints
      have later := ih announced.tail
        (fun application member =>
          idleApplications application (List.mem_cons_of_mem first.application member))
        (fun endpoint member => idleEndpoints endpoint (List.mem_append_right _ member))
      simp only [writeCandidates, Program.bind_eq, Program.run_bind, ran]
      by_cases isOpen : Store.IsOpen run.discovererId
          (contents.applications.get? first.application.applicationId)
      · have alone : allEndpoints (writable run contents.applications [first]) =
            first.endpoints := by
          simp [writable, isWritable, isOpen]
        have endpoints := fun seen summary => run_writeEndpoints_of_idle supply kept.endpoints
          (fun endpoint member => announced.endpoints endpoint
            (List.mem_append_left _ member))
          (fun endpoint member => idleEndpoints endpoint
            (List.mem_append_left _ (alone ▸ member))) seen summary
        simp only [isOpen, if_true, reduceCtorEq, if_false, false_and, Program.run_bind,
          endpoints]
        exact later _ _
      · simp only [isOpen]
        exact later _ _

/-- A registry in which a batch has nothing left to write. -/
structure Settled (run : Run) (now : Timestamp) (results : List ResultRecord)
    (contents : Contents) : Prop where
  applications : ∀ id,
    applicationOutlook run now results id (contents.applications.get? id) = none
  endpoints : ∀ id,
    endpointOutlook run now contents.applications results id (contents.endpoints.get? id) = none

/-- An outlook that has nothing to write has nothing to write of what was seen, and nothing of
what is missing. -/
theorem idle_of_outlook {α : Type} [Entity α] (treatment : Treatment α) {store : Store α}
    {entities : List α} {accounted : List String} (kept : store.WellKept)
    (nodup : (entities.map Entity.id).Nodup)
    (complete : ∀ id, Store.IsOwned treatment.discovererId (store.get? id) →
      (id ∈ accounted ↔ id ∈ entities.map Entity.id))
    (idle : ∀ id, treatment.outlook (firstOf entities) id (store.get? id) = none) :
    (∀ entity ∈ entities, treatment.ofSeen entity (store.get? (Entity.id entity)) = none) ∧
      ∀ id ∈ missing ((store.ownedBy treatment.discovererId).map Entity.id) accounted,
        (store.get? id).bind treatment.lose = none := by
  constructor
  · intro entity member
    have here := idle (Entity.id entity)
    simpa only [Treatment.outlook, firstOf_of_mem nodup member] using here
  · intro id missed
    have here := idle id
    rw [← each_orElse_among kept complete id] at here
    unfold Intent.orElse at here
    have there := (Option.or_eq_none_iff.mp here).2
    simpa only [Intent.among, if_pos missed] using there

variable (supply) in
/-- A run that has nothing to write leaves the registry as it is, to the last generation. -/
theorem run_reconcile_of_settled {run : Run} {now : Timestamp} {results : List ResultRecord}
    {contents : Contents} (kept : contents.WellKept)
    (separate : Separate (sightings run.discovererId results))
    (settled : Settled run now results contents) :
    (reconcile run now results).run (Contents.handler supply) contents =
      (.ok (tally run contents results), contents) := by
  let seen := sightings run.discovererId results
  have owns : ∀ sighting ∈ seen, sighting.2.applicationId = sighting.1.applicationId :=
    fun sighting => ids_of_mem_sightings
  have applicationsNodup : (((grouped seen).map Registration.application).map Entity.id).Nodup := by
    rw [List.map_map]
    exact (Grouped.of_seen owns).applications_nodup
  have endpointsNodup := nodup_allEndpoints_grouped owns separate
  have writableNodup : ((allEndpoints (writable run contents.applications (grouped seen))).map
      Entity.id).Nodup := by
    rw [allEndpoints_writable owns]
    exact endpointsNodup.sublist (List.filter_sublist.map Endpoint.id)
  have announced : Announced run (listedFor run contents) contents (grouped seen) :=
    { applications := fun candidate _ => kept.applications.mem_ownedBy_ids _ _
      endpoints := fun endpoint _ => kept.endpoints.mem_ownedBy_ids _ _ }
  let accounted := Seen.including {} (writable run contents.applications (grouped seen))
  obtain ⟨idleApplications, unlostApplications⟩ :=
    idle_of_outlook (applicationTreatment run now) kept.applications applicationsNodup
      (fun id owned => mem_accounted_applications owned) (by
        rw [firstOf_grouped]
        exact settled.applications)
  obtain ⟨idleEndpoints, unlostEndpoints⟩ :
      _ ∧ ∀ id ∈ missing _ accounted.endpoints, _ :=
    idle_of_outlook (endpointTreatment run now) kept.endpoints writableNodup
      (fun id _ => Iff.rfl) (by
        rw [firstOf_allEndpoints_writable run owns separate]
        exact settled.endpoints)
  have sameApplications : contents.applications.revisedAll supply (lostApplication run now)
      (missing (listedFor run contents).applications accounted.applications) =
        contents.applications := Store.revisedAll_of_idle supply unlostApplications
  have sameEndpoints : contents.endpoints.revisedAll supply (lostEndpoint now)
      (missing (listedFor run contents).endpoints accounted.endpoints) =
        contents.endpoints := Store.revisedAll_of_idle supply unlostEndpoints
  obtain ⟨middle, wrote, -⟩ :=
    run_writeCandidates supply run (listedFor run contents) (grouped seen)
      (Grouped.of_seen owns).applications_nodup endpointsNodup kept announced {}
      { skipped := results.countP (isNameless run.discovererId) }
  have same : middle = contents := by
    have stays := run_writeCandidates_of_idle supply kept announced idleApplications
      idleEndpoints {} { skipped := results.countP (isNameless run.discovererId) }
    rwa [wrote] at stays
  rw [same] at wrote
  have written := run_reconcile_of_written run now results kept kept wrote
  rw [sameApplications, sameEndpoints] at written
  -- the summary is the one that any run comes to
  obtain ⟨after, ran, -⟩ := run_reconcile supply run now results kept separate
  have unwritten : after = contents := congrArg Prod.snd (ran.symm.trans written)
  rw [ran, unwritten]

/-! ## What a run has written -/

namespace Treatment

variable {α : Type} [Entity α]

/-- An entity that is stored as it was seen. -/
structure Knows (treatment : Treatment α) (seen stored : α) : Prop where
  owned : Entity.discovererId stored = some treatment.discovererId
  revise_eq_none : treatment.revise seen stored = none

/-- An entity that is stored as lost. -/
structure Misses (treatment : Treatment α) (stored : α) : Prop where
  owned : Entity.discovererId stored = some treatment.discovererId
  lose_eq_none : treatment.lose stored = none

/-- A treatment that has nothing left to write where another one has written, or has found
nothing to write. -/
structure Confirms (later earlier : Treatment α) (seen? : String → Option α) : Prop where
  discovererId_eq : later.discovererId = earlier.discovererId
  added : ∀ id seen generation, seen? id = some seen →
    later.Knows seen (Entity.inGeneration (some generation) (earlier.add seen))
  revised : ∀ seen generation former entity,
    Entity.discovererId former = some earlier.discovererId →
    earlier.revise seen former = some entity →
    later.Knows seen (Entity.inGeneration (some generation) entity)
  unrevised : ∀ seen former, Entity.discovererId former = some earlier.discovererId →
    earlier.revise seen former = none → later.Knows seen former
  lost : ∀ generation former entity, Entity.discovererId former = some earlier.discovererId →
    earlier.lose former = some entity →
    later.Misses (Entity.inGeneration (some generation) entity)
  unlost : ∀ former, Entity.discovererId former = some earlier.discovererId →
    earlier.lose former = none → later.Misses former

/-- How an entity stands after a run, for a later treatment that has seen the same. -/
inductive Aftermath (later : Treatment α) : (seen? before? after? : Option α) → Prop
  | foreign {seen? : Option α} {former : α}
      (others : Entity.discovererId former ≠ some later.discovererId) :
      Aftermath later seen? (some former) (some former)
  | absent : Aftermath later none none none
  | found {seen stored : α} {before? : Option α}
      (isOpen : Store.IsOpen later.discovererId before?) (knows : later.Knows seen stored) :
      Aftermath later (some seen) before? (some stored)
  | missed {former stored : α} (owned : Entity.discovererId former = some later.discovererId)
      (misses : later.Misses stored) : Aftermath later none (some former) (some stored)

variable {later earlier : Treatment α} {seen? : String → Option α} {before after : Store α}

theorem Confirms.aftermath (confirms : later.Confirms earlier seen?)
    (became : before.Becomes (earlier.outlook seen?) after) (id : String) :
    later.Aftermath (seen? id) (before.get? id) (after.get? id) := by
  have same := confirms.discovererId_eq
  have fate := fate_of_becomes became id
  generalize sighted : seen? id = sight, before.get? id = before?, after.get? id = after? at fate ⊢
  cases fate with
  | absent => exact .absent
  | added generation => exact .found rfl (confirms.added id _ generation sighted)
  | foreign others => exact .foreign (same ▸ others)
  | unchanged owned kept =>
      exact .found (by simpa [same] using owned) (confirms.unrevised _ _ owned kept)
  | revised generation owned change =>
      exact .found (by simpa [same] using owned)
        (confirms.revised _ generation _ _ owned change)
  | stillLost owned kept => exact .missed (same ▸ owned) (confirms.unlost _ owned kept)
  | lost generation owned change =>
      exact .missed (same ▸ owned) (confirms.lost generation _ _ owned change)

/-- After a run there is nothing left to write. -/
theorem Confirms.outlook_eq_none (confirms : later.Confirms earlier seen?)
    (became : before.Becomes (earlier.outlook seen?) after) (id : String) :
    later.outlook seen? id (after.get? id) = none := by
  have stands := confirms.aftermath became id
  generalize sighted : seen? id = seen, before.get? id = before?, after.get? id = after? at stands
  cases stands with
  | foreign others => exact outlook_foreign others
  | absent => exact outlook_absent sighted
  | found isOpen knows => exact (outlook_owned sighted knows.owned).trans knows.revise_eq_none
  | missed owned misses => exact (outlook_missed sighted misses.owned).trans misses.lose_eq_none

/-- A run does not change what the discoverer may write. -/
theorem Confirms.isOpen_eq (confirms : later.Confirms earlier seen?)
    (became : before.Becomes (earlier.outlook seen?) after) (id : String) :
    Store.IsOpen later.discovererId (after.get? id) =
      Store.IsOpen later.discovererId (before.get? id) := by
  have stands := confirms.aftermath became id
  generalize seen? id = sight, before.get? id = before?, after.get? id = after? at stands ⊢
  cases stands with
  | foreign others => rfl
  | absent => rfl
  | found isOpen knows =>
      rw [isOpen]
      simp [knows.owned]
  | missed owned misses => simp [owned, misses.owned]

end Treatment

/-- The verdict on an entity that a run finds once more. -/
def Verdict.again : Verdict → Verdict
  | .skipped => .skipped
  | _ => .unchanged

/-- What a run has counted in whatever way is unchanged the next time, unless it was skipped. -/
theorem Treatment.Confirms.verdict_eq {α : Type} [Entity α] {later earlier : Treatment α}
    {seen? : String → Option α} {before after : Store α}
    (confirms : later.Confirms earlier seen?)
    (became : before.Becomes (earlier.outlook seen?) after) {id : String} {seen : α}
    (sighted : seen? id = some seen) :
    verdict later.discovererId (later.revise seen) (after.get? id) =
      (verdict earlier.discovererId (earlier.revise seen) (before.get? id)).again := by
  have stands := confirms.aftermath became id
  rw [sighted] at stands
  generalize before.get? id = before?, after.get? id = after? at stands ⊢
  rw [← confirms.discovererId_eq]
  cases stands with
  | foreign others => simp [verdict, others, Verdict.again]
  | @found _ stored _ isOpen knows =>
      have known : verdict later.discovererId (later.revise seen) (some stored) = .unchanged := by
        simp [verdict, knows.owned, knows.revise_eq_none]
      rw [known]
      cases before? with
      | none => rfl
      | some former =>
          have owned : Entity.discovererId former = some later.discovererId := by
            simpa using isOpen
          simp only [verdict, owned, if_true]
          split <;> rfl

/-! ## Runs with one batch -/

section Runs

variable {first second : Run} {now later : Timestamp}

theorem knows_application {seen stored : Application}
    (owned : stored.discovererId = some second.discovererId)
    (same : (stored.rediscovered seen).found = stored) :
    (applicationTreatment second later).Knows seen stored :=
  ⟨owned, if_pos same⟩

theorem knows_endpoint {seen stored : Endpoint}
    (owned : stored.discovererId = some second.discovererId)
    (same : (stored.rediscovered seen).found = stored) :
    (endpointTreatment second later).Knows seen stored :=
  ⟨owned, if_pos same⟩

theorem misses_application {stored : Application}
    (owned : stored.discovererId = some second.discovererId) (lost : stored.isLost) :
    (applicationTreatment second later).Misses stored :=
  ⟨owned, if_pos lost⟩

theorem misses_endpoint {stored : Endpoint}
    (owned : stored.discovererId = some second.discovererId) (lost : stored.isLost) :
    (endpointTreatment second later).Misses stored :=
  ⟨owned, if_pos lost⟩

theorem confirms_application (same : second.discovererId = first.discovererId)
    {seen? : String → Option Application}
    (own : ∀ id seen, seen? id = some seen → seen.discovererId = some first.discovererId) :
    (applicationTreatment second later).Confirms (applicationTreatment first now) seen? where
  discovererId_eq := same
  added id seen generation sighted := knows_application (same ▸ own id seen sighted) rfl
  revised := by
    intro seen generation former entity owned change
    obtain ⟨-, rfl⟩ := refreshedApplication_eq_some_iff.mp change
    exact knows_application (same ▸ owned) rfl
  unrevised := by
    intro seen former owned unchanged
    apply knows_application (same ▸ owned)
    exact refreshedApplication_eq_none_iff.mp unchanged
  lost := by
    intro generation former entity owned change
    have isLost : entity.isLost := isLost_lostApplication change
    have kept := keepsNature_lostApplication first now change
    exact misses_application
      (same ▸ (NaturedEntity.discovererId_of_nature kept).trans owned) isLost
  unlost := by
    intro former owned unchanged
    apply misses_application (same ▸ owned)
    exact lostApplication_eq_none_iff.mp unchanged

theorem confirms_endpoint (same : second.discovererId = first.discovererId)
    {seen? : String → Option Endpoint}
    (own : ∀ id seen, seen? id = some seen → seen.discovererId = some first.discovererId) :
    (endpointTreatment second later).Confirms (endpointTreatment first now) seen? where
  discovererId_eq := same
  added id seen generation sighted := knows_endpoint (same ▸ own id seen sighted) rfl
  revised := by
    intro seen generation former entity owned change
    obtain ⟨-, rfl⟩ := refreshedEndpoint_eq_some_iff.mp change
    exact knows_endpoint (same ▸ owned) rfl
  unrevised := by
    intro seen former owned unchanged
    apply knows_endpoint (same ▸ owned)
    exact refreshedEndpoint_eq_none_iff.mp unchanged
  lost := by
    intro generation former entity owned change
    have isLost : entity.isLost := isLost_lostEndpoint change
    have kept := keepsNature_lostEndpoint now change
    exact misses_endpoint
      (same ▸ (NaturedEntity.discovererId_of_nature kept).trans owned) isLost
  unlost := by
    intro former owned unchanged
    apply misses_endpoint (same ▸ owned)
    exact lostEndpoint_eq_none_iff.mp unchanged

end Runs

/-- A run that has made one registry of another. -/
structure Became (run : Run) (now : Timestamp) (results : List ResultRecord)
    (before after : Contents) : Prop where
  applications : before.applications.Becomes (applicationOutlook run now results)
    after.applications
  endpoints : before.endpoints.Becomes (endpointOutlook run now before.applications results)
    after.endpoints

section Batch

variable {first second : Run} {now later : Timestamp} {results : List ResultRecord}
  {before after : Contents}

theorem discovererId_of_seenEndpoint {run : Run} {stored : Store Application} {id : String}
    {seen : Endpoint}
    (sighted : seenEndpoint run stored (sightings run.discovererId results) id = some seen) :
    seen.discovererId = some run.discovererId :=
  discovererId_of_lastEndpoint (Option.filter_eq_some_iff.mp sighted).1

namespace Became

variable (later) in
theorem confirms_applications (same : second.discovererId = first.discovererId) :
    (applicationTreatment second later).Confirms (applicationTreatment first now)
      (firstApplication (sightings first.discovererId results)) :=
  confirms_application same fun _ _ => discovererId_of_firstApplication

variable (later) in
theorem confirms_endpoints (same : second.discovererId = first.discovererId)
    (stored : Store Application) :
    (endpointTreatment second later).Confirms (endpointTreatment first now)
      (seenEndpoint first stored (sightings first.discovererId results)) :=
  confirms_endpoint same fun _ _ => discovererId_of_seenEndpoint

/-- The discoverer may write the same applications as before. -/
theorem isOpen_eq (became : Became first now results before after)
    (same : second.discovererId = first.discovererId) (id : String) :
    Store.IsOpen second.discovererId (after.applications.get? id) =
      Store.IsOpen first.discovererId (before.applications.get? id) := by
  rw [← same]
  exact (confirms_applications now same).isOpen_eq became.applications id

theorem seenEndpoint_eq (became : Became first now results before after)
    (same : second.discovererId = first.discovererId) (seen : List (Application × Endpoint)) :
    seenEndpoint second after.applications seen = seenEndpoint first before.applications seen := by
  funext id
  simp only [seenEndpoint, became.isOpen_eq same]

/-- A run leaves nothing to write for another one with the same batch. -/
theorem settled (became : Became first now results before after)
    (same : second.discovererId = first.discovererId) : Settled second later results after where
  applications := by
    unfold applicationOutlook
    rw [same]
    exact (confirms_applications later same).outlook_eq_none became.applications
  endpoints := by
    unfold endpointOutlook
    rw [same, became.seenEndpoint_eq same]
    exact (confirms_endpoints later same before.applications).outlook_eq_none became.endpoints

theorem applicationVerdict_eq (became : Became first now results before after)
    (same : second.discovererId = first.discovererId) {application : Application}
    (member : application ∈ firstApplications (sightings first.discovererId results)) :
    applicationVerdict second after.applications application =
      (applicationVerdict first before.applications application).again := by
  obtain ⟨id, -, sighted⟩ := List.mem_filterMap.mp member
  obtain rfl : application.applicationId = id := by simpa using List.find?_some sighted
  exact (confirms_applications now same).verdict_eq became.applications sighted

theorem endpointVerdict_eq (became : Became first now results before after)
    (same : second.discovererId = first.discovererId) {endpoint : Endpoint}
    (member : endpoint ∈ lastEndpoints (sightings first.discovererId results)) :
    batchEndpointVerdict second after endpoint =
      (batchEndpointVerdict first before endpoint).again := by
  obtain ⟨id, -, sighted⟩ := List.mem_filterMap.mp member
  obtain rfl : endpoint.id = id := by simpa using List.find?_some sighted
  unfold batchEndpointVerdict
  rw [became.isOpen_eq same]
  by_cases isOpen : Store.IsOpen first.discovererId
      (before.applications.get? endpoint.applicationId)
  · have shown : seenEndpoint first before.applications
        (sightings first.discovererId results) endpoint.id = some endpoint := by
      simp [seenEndpoint, sighted, isOpen]
    rw [if_pos isOpen, if_pos isOpen]
    exact (confirms_endpoints now same before.applications).verdict_eq became.endpoints shown
  · rw [if_neg isOpen, if_neg isOpen]
    rfl

theorem batchVerdicts_eq (became : Became first now results before after)
    (same : second.discovererId = first.discovererId) :
    batchVerdicts second after (sightings first.discovererId results) =
      (batchVerdicts first before (sightings first.discovererId results)).map Verdict.again := by
  unfold batchVerdicts
  rw [List.map_append, List.map_map, List.map_map]
  congr 1
  · exact List.map_congr_left fun _ => became.applicationVerdict_eq same
  · exact List.map_congr_left fun _ => became.endpointVerdict_eq same

end Became

namespace Settled

theorem lostApplications_eq_zero (settled : Settled second later results after)
    (kept : after.WellKept) :
    lostApplications second after (sightings second.discovererId results) = 0 := by
  apply List.countP_eq_zero.mpr
  intro application member
  obtain ⟨stored, owned⟩ := List.mem_filter.mp member
  have isOwn : Entity.discovererId application = some second.discovererId := by
    simpa using owned
  have present := (kept.applications.mem_toList application).mp stored
  cases sighted : firstApplication (sightings second.discovererId results)
      application.applicationId with
  | some seen => simp
  | none =>
      have nothing := settled.applications application.applicationId
      rw [show after.applications.get? application.applicationId = some application from present,
        applicationOutlook, Treatment.outlook_missed sighted isOwn] at nothing
      have lost : application.isLost := by
        simpa [applicationTreatment, lostApplication] using nothing
      simp [lost]

theorem lostEndpoints_eq_zero (settled : Settled second later results after)
    (kept : after.WellKept) :
    lostEndpoints second after (sightings second.discovererId results) = 0 := by
  apply List.countP_eq_zero.mpr
  intro endpoint member
  obtain ⟨stored, owned⟩ := List.mem_filter.mp member
  have isOwn : Entity.discovererId endpoint = some second.discovererId := by
    simpa using owned
  have present := (kept.endpoints.mem_toList endpoint).mp stored
  cases sighted : seenEndpoint second after.applications
      (sightings second.discovererId results) endpoint.id with
  | some seen => simp
  | none =>
      have nothing := settled.endpoints endpoint.id
      rw [show after.endpoints.get? endpoint.id = some endpoint from present, endpointOutlook,
        Treatment.outlook_missed sighted isOwn] at nothing
      have lost : endpoint.isLost := by
        simpa [endpointTreatment, lostEndpoint] using nothing
      simp [lost]

end Settled

/-- How often each verdict is reached the second time. -/
theorem count_map_again (verdicts : List Verdict) :
    (verdicts.map Verdict.again).count .added = 0 ∧
      (verdicts.map Verdict.again).count .updated = 0 ∧
      (verdicts.map Verdict.again).count .unchanged =
        verdicts.count .added + verdicts.count .updated + verdicts.count .unchanged ∧
      (verdicts.map Verdict.again).count .skipped = verdicts.count .skipped := by
  induction verdicts with
  | nil => exact ⟨rfl, rfl, rfl, rfl⟩
  | cons first rest ih =>
      obtain ⟨added, updated, unchanged, skipped⟩ := ih
      cases first <;>
        simp [Verdict.again, added, updated, unchanged, skipped] <;> omega

/-- What a second run counts. -/
def Summary.again (summary : Summary) : Summary where
  unchanged := summary.added + summary.updated + summary.unchanged
  skipped := summary.skipped

theorem Became.tally_eq (became : Became first now results before after)
    (same : second.discovererId = first.discovererId) (kept : after.WellKept) :
    tally second after results = (tally first before results).again := by
  have settled : Settled second now results after := became.settled same
  have applications := settled.lostApplications_eq_zero kept
  have endpoints := settled.lostEndpoints_eq_zero kept
  obtain ⟨added, updated, unchanged, skipped⟩ :=
    count_map_again (batchVerdicts first before (sightings first.discovererId results))
  rw [← became.batchVerdicts_eq same] at added updated unchanged skipped
  rw [same] at applications endpoints
  simp only [tally, Summary.again, same, applications, endpoints, added, updated, unchanged,
    skipped]

end Batch

/-- Scanning again writes nothing.  Whatever stood in a registry and whatever a run has seen, a
second run of the same discoverer with the same batch leaves both stores exactly as the first
one has left them, whenever and in whatever context it runs.  It counts as unchanged what the
first one has added, updated or left unchanged, as skipped what the first one has skipped, and
nothing else. -/
theorem rescan_writes_nothing (supply : Nat → String) (run : Run) (context : Model.Context)
    (attempts : Nat) (now later : Timestamp) (results : List ResultRecord) (before : Contents)
    (kept : before.WellKept) (separate : Separate (sightings run.discovererId results)) :
    ∃ (summary : Summary) (after : Contents),
      (reconcile run now results).run (Contents.handler supply) before = (.ok summary, after) ∧
      (reconcile { run with context, attempts } later results).run (Contents.handler supply)
          after =
        (.ok { added := 0, updated := 0, lost := 0, failed := 0
               skipped := summary.skipped
               unchanged := summary.added + summary.updated + summary.unchanged }, after) := by
  obtain ⟨after, ran, afterKept, applications, endpoints⟩ :=
    run_reconcile supply run now results kept separate
  have became : Became run now results before after := ⟨applications, endpoints⟩
  refine ⟨_, after, ran, ?_⟩
  let second : Run := { run with context, attempts }
  have settled : Settled second later results after := became.settled rfl
  have same : second.discovererId = run.discovererId := rfl
  have again := run_reconcile_of_settled supply afterKept (same ▸ separate) settled
  rw [became.tally_eq same afterKept] at again
  exact again

theorem small_rescan_writes_nothing :
    smallRegistry.WellKept ∧ Separate (sightings smallRun.discovererId smallBatch) ∧
    ∃ (summary : Summary) (after : Contents),
      (reconcile smallRun Timestamp.epoch smallBatch).run (Contents.handler toString)
          smallRegistry = (.ok summary, after) ∧
      (reconcile smallRun Timestamp.epoch smallBatch).run (Contents.handler toString) after =
        (.ok { added := 0, updated := 0, lost := 0, failed := 0
               skipped := summary.skipped
               unchanged := summary.added + summary.updated + summary.unchanged }, after) := by
  have kept : smallRegistry.WellKept := ⟨⟨by decide, by decide⟩, ⟨by decide, by decide⟩⟩
  have alone : ∀ result ∈ smallBatch,
      result.application = some { applicationId := "", applicationUri := "urn:server" } := by
    simp [smallBatch, recordOf]
  have separate : Separate (sightings smallRun.discovererId smallBatch) :=
    separate_of_one_application alone
  exact ⟨kept, separate, rescan_writes_nothing toString smallRun smallRun.context
    smallRun.attempts Timestamp.epoch Timestamp.epoch smallBatch smallRegistry kept separate⟩

end FieldSurvey.Registry
