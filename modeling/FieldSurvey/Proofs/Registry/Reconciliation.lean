import FieldSurvey.Proofs.Registry.Tally

/-!
# The effect of a reconciliation

An undisturbed reconciliation always ends with a summary.  It leaves a registry in which
every entity is as the outlook of its run has it: found as the batch tells of it, lost,
or as it was.
-/

namespace FieldSurvey.Registry

open Model (Application Endpoint ResultRecord)
open Time (Timestamp)

variable {supply : Nat → String}

/-- How a run deals with applications. -/
def applicationTreatment (run : Run) (now : Timestamp) : Treatment Application where
  discovererId := run.discovererId
  add := newApplication run
  revise := refreshedApplication run
  lose := lostApplication run now

/-- How a run deals with endpoints. -/
def endpointTreatment (run : Run) (now : Timestamp) : Treatment Endpoint where
  discovererId := run.discovererId
  add := newEndpoint
  revise := refreshedEndpoint
  lose := lostEndpoint now

/-- What is to become of the applications of the registry. -/
def applicationOutlook (run : Run) (now : Timestamp) (results : List ResultRecord) :
    Intent Application :=
  (applicationTreatment run now).outlook (firstApplication (sightings run.discovererId results))

/-- What is to become of the endpoints of the registry, by the applications that stood
there before. -/
def endpointOutlook (run : Run) (now : Timestamp) (before : Store Application)
    (results : List ResultRecord) : Intent Endpoint :=
  (endpointTreatment run now).outlook
    (seenEndpoint run before (sightings run.discovererId results))

theorem isSome_lostApplication (run : Run) (now : Timestamp) (stored : Application) :
    (lostApplication run now stored).isSome = !stored.isLost := by
  cases lost : stored.isLost <;> simp [lostApplication, lost]

theorem isSome_lostEndpoint (now : Timestamp) (stored : Endpoint) :
    (lostEndpoint now stored).isSome = !stored.isLost := by
  cases lost : stored.isLost <;> simp [lostEndpoint, lost]

/-- A run accounts for the applications that it may write. -/
theorem mem_accounted_applications {run : Run} {before : Store Application}
    {candidates : List Model.Registration} {id : String}
    (owned : Store.IsOwned run.discovererId (before.get? id)) :
    id ∈ (Seen.including {} (writable run before candidates)).applications ↔
      id ∈ (candidates.map Model.Registration.application).map Entity.id := by
  simp only [Seen.including, List.nil_append, writable, List.mem_map, List.mem_filter]
  constructor
  · rintro ⟨candidate, ⟨member, -⟩, same⟩
    exact ⟨candidate.application, ⟨candidate, member, rfl⟩, same⟩
  · rintro ⟨application, ⟨candidate, member, rfl⟩, same⟩
    refine ⟨candidate, ⟨member, ?_⟩, same⟩
    unfold isWritable
    rw [show candidate.application.applicationId = id from same]
    exact Store.isOpen_of_isOwned owned

/-- The ids that the discoverer of a run owns. -/
def listedFor (run : Run) (before : Contents) : Listed where
  applications := (before.applications.ownedBy run.discovererId).map Application.applicationId
  endpoints := (before.endpoints.ownedBy run.discovererId).map Endpoint.id

theorem nodup_missing_applications {before : Contents} (kept : before.WellKept) (run : Run)
    (accounted : List String) : (missing (listedFor run before).applications accounted).Nodup :=
  (kept.applications.nodup_ownedBy_ids run.discovererId).filter _

theorem nodup_missing_endpoints {before : Contents} (kept : before.WellKept) (run : Run)
    (accounted : List String) : (missing (listedFor run before).endpoints accounted).Nodup :=
  (kept.endpoints.nodup_ownedBy_ids run.discovererId).filter _

/-- What is left of a reconciliation once the entities of the discoverer are listed. -/
def reconcileListed (run : Run) (now : Timestamp) (results : List ResultRecord)
    (listed : Listed) : Program Calls (Except Fault Summary) := do
  let (seen, summary) ← writeCandidates run listed
    (grouped (sightings run.discovererId results)) {}
    { skipped := results.countP (isNameless run.discovererId) }
  let summary ← loseApplications run now
    (missing listed.applications seen.applications) summary
  let summary ← loseEndpoints run now (missing listed.endpoints seen.endpoints) summary
  return .ok summary

theorem reconcile_eq (run : Run) (now : Timestamp) (results : List ResultRecord) :
    reconcile run now results =
      .call (.application (.listBy run.discovererId)) fun
        | .error fault => .done (.error fault)
        | .ok applications => .call (.endpoint (.listBy run.discovererId)) fun
          | .error fault => .done (.error fault)
          | .ok endpoints => reconcileListed run now results
            { applications := applications.map Application.applicationId
              endpoints := endpoints.map Endpoint.id } := by
  unfold reconcile reconcileListed
  rw [ofBatch_eq]
  rfl

/-- A reconciliation that is to be run. -/
structure Errand where
  run : Run
  now : Timestamp
  results : List ResultRecord

/-- What an errand consists in. -/
def Errand.program (errand : Errand) : Program Calls (Except Fault Summary) :=
  reconcile errand.run errand.now errand.results

/-- What the records of an errand tell of. -/
def Errand.seen (errand : Errand) : List (Application × Endpoint) :=
  sightings errand.run.discovererId errand.results

/-- A reconciliation makes what is missing lost once the candidates are written. -/
theorem run_reconcile_of_written (run : Run) (now : Timestamp) (results : List ResultRecord)
    {before middle : Contents} (kept : before.WellKept) (middleKept : middle.WellKept)
    {accounted : Seen} {summary : Summary}
    (wrote : (writeCandidates run (listedFor run before)
        (grouped (sightings run.discovererId results)) {}
        { skipped := results.countP (isNameless run.discovererId) }).run
          (Contents.handler supply) before = ((accounted, summary), middle)) :
    (reconcile run now results).run (Contents.handler supply) before =
      (.ok { summary with
          lost := summary.lost +
            (middle.applications.affected (lostApplication run now)
                (missing (listedFor run before).applications accounted.applications) +
              middle.endpoints.affected (lostEndpoint now)
                (missing (listedFor run before).endpoints accounted.endpoints)) },
        { applications := middle.applications.revisedAll supply (lostApplication run now)
            (missing (listedFor run before).applications accounted.applications)
          endpoints := middle.endpoints.revisedAll supply (lostEndpoint now)
            (missing (listedFor run before).endpoints accounted.endpoints) }) := by
  have applicationsNodup := nodup_missing_applications kept run accounted.applications
  have endpointsNodup := nodup_missing_endpoints kept run accounted.endpoints
  have endpointsKept : ∀ applications : Store Application,
      ({ middle with applications } : Contents).endpoints.WellKept := fun _ => middleKept.endpoints
  have passes : (reconcile run now results).run (Contents.handler supply) before =
      ((do
        let (seen, summary) ← writeCandidates run (listedFor run before)
          (Candidates.ofBatch run.discovererId results).registrations {}
          { skipped := (Candidates.ofBatch run.discovererId results).skipped }
        let summary ← loseApplications run now
          (missing (listedFor run before).applications seen.applications) summary
        let summary ← loseEndpoints run now
          (missing (listedFor run before).endpoints seen.endpoints) summary
        return .ok summary) : Program Calls (Except Fault Summary)).run
          (Contents.handler supply) before := rfl
  rw [passes, ofBatch_eq, Program.bind_eq, Program.run_bind, wrote]
  simp only [Program.bind_eq, Program.run_bind,
    run_loseApplications run now applicationsNodup middleKept.applications]
  rw [run_loseEndpoints run now endpointsNodup (endpointsKept _)]
  simp [Nat.add_assoc]

variable (supply) in
/-- An undisturbed reconciliation carries out the outlook of its run. -/
theorem run_reconcile (run : Run) (now : Timestamp) (results : List ResultRecord)
    {before : Contents} (kept : before.WellKept)
    (separate : Separate (sightings run.discovererId results)) :
    ∃ after : Contents,
      (reconcile run now results).run (Contents.handler supply) before =
        (.ok (tally run before results), after) ∧
      after.WellKept ∧
      before.applications.Becomes (applicationOutlook run now results) after.applications ∧
      before.endpoints.Becomes (endpointOutlook run now before.applications results)
        after.endpoints := by
  let seen := sightings run.discovererId results
  have owns : ∀ sighting ∈ seen, sighting.2.applicationId = sighting.1.applicationId :=
    fun sighting => ids_of_mem_sightings
  let listed := listedFor run before
  have announced : Announced run listed before (grouped seen) :=
    { applications := fun candidate _ => kept.applications.mem_ownedBy_ids _ _
      endpoints := fun endpoint _ => kept.endpoints.mem_ownedBy_ids _ _ }
  obtain ⟨middle, wrote, middleKept, becameApplications, becameEndpoints⟩ :=
    run_writeCandidates supply run listed (grouped seen)
      (Grouped.of_seen owns).applications_nodup (nodup_allEndpoints_grouped owns separate) kept
      announced {} { skipped := results.countP (isNameless run.discovererId) }
  let accounted := Seen.including {} (writable run before.applications (grouped seen))
  let missedApplications := missing listed.applications accounted.applications
  let missedEndpoints := missing listed.endpoints accounted.endpoints
  have completeApplications : ∀ id,
      Store.IsOwned (applicationTreatment run now).discovererId (before.applications.get? id) →
        (id ∈ accounted.applications ↔
          id ∈ ((grouped seen).map Model.Registration.application).map Entity.id) :=
    fun id owned => mem_accounted_applications owned
  have completeEndpoints : ∀ id,
      Store.IsOwned (endpointTreatment run now).discovererId (before.endpoints.get? id) →
        (id ∈ accounted.endpoints ↔
          id ∈ (allEndpoints (writable run before.applications (grouped seen))).map Entity.id) :=
    fun id _ => Iff.rfl
  have sightedApplications : firstOf ((grouped seen).map Model.Registration.application) =
      firstApplication seen := firstOf_grouped seen
  have sightedEndpoints := firstOf_allEndpoints_writable run owns separate
    before.applications
  let after : Contents :=
    { applications :=
        middle.applications.revisedAll supply (lostApplication run now) missedApplications
      endpoints := middle.endpoints.revisedAll supply (lostEndpoint now) missedEndpoints }
  have fewerApplications : middle.applications.affected (lostApplication run now)
      missedApplications = lostApplications run before seen := by
    have count := affected_missing (applicationTreatment run now)
      kept.applications completeApplications becameApplications
    simp only [sightedApplications, applicationTreatment, isSome_lostApplication] at count
    exact count
  have fewerEndpoints : middle.endpoints.affected (lostEndpoint now) missedEndpoints =
      lostEndpoints run before seen := by
    have count := affected_missing (endpointTreatment run now)
      kept.endpoints completeEndpoints becameEndpoints
    simp only [sightedEndpoints, endpointTreatment, isSome_lostEndpoint] at count
    exact count
  refine ⟨after, ?_, ⟨middleKept.applications.revisedAll _ _, middleKept.endpoints.revisedAll _ _⟩,
    ?_, ?_⟩
  · have verdicts := perm_batchVerdicts run before owns separate
    rw [foldl_record] at wrote
    rw [run_reconcile_of_written run now results kept middleKept wrote]
    simp [tally, seen, after, verdicts.count_eq, ← fewerApplications, ← fewerEndpoints,
      missedApplications, missedEndpoints, listed, accounted]
  · have became := becomes_outlook supply kept.applications completeApplications
      (keepsIdentity_lostApplication run now) middleKept.applications becameApplications
    rw [sightedApplications] at became
    exact became
  · have became := becomes_outlook supply kept.endpoints completeEndpoints
      (keepsIdentity_lostEndpoint now) middleKept.endpoints becameEndpoints
    rw [sightedEndpoints] at became
    exact became

/-! ## What stands in the registry afterwards -/

/-- An application as a run has found it. -/
structure ApplicationFound (discovererId : String) (seen stored : Application) : Prop where
  owned : stored.discovererId = some discovererId
  found : stored.visibility = .found
  notMissed : stored.notSeenSince = none
  productUri : stored.productUri = seen.productUri
  applicationName : stored.applicationName = seen.applicationName
  locale : stored.locale = seen.locale
  capabilities : stored.capabilities = seen.capabilities
  discoveryUrls : stored.discoveryUrls = seen.discoveryUrls
  discoveryProfileUri : stored.discoveryProfileUri = seen.discoveryProfileUri
  hostAddresses : stored.hostAddresses = seen.hostAddresses
  gatewayServerUri : stored.gatewayServerUri = seen.gatewayServerUri
  certificate : stored.certificate = seen.certificate
  siteId : stored.siteId = seen.siteId

/-- An endpoint as a run has found it. -/
structure EndpointFound (discovererId : String) (seen stored : Endpoint) : Prop where
  owned : stored.discovererId = some discovererId
  found : stored.visibility = .found
  notMissed : stored.notSeenSince = none
  endpointUrl : stored.endpointUrl = seen.endpointUrl
  alternativeUrls : stored.alternativeUrls = seen.alternativeUrls
  securityLevel : stored.securityLevel = seen.securityLevel
  authenticationMethods : stored.authenticationMethods = seen.authenticationMethods
  certificateThumbprint : stored.certificateThumbprint = seen.certificateThumbprint
  applicationId : stored.applicationId = seen.applicationId
  siteId : stored.siteId = seen.siteId

/-- An application that a run has missed.  One that was lost already stays as it was. -/
def ApplicationLost (run : Run) (now : Timestamp) (former stored : Application) : Prop :=
  if former.isLost then stored = former
  else ∃ generation : String, stored =
    { former with
      visibility := .lost
      notSeenSince := some now
      updated := some run.context
      generationId := some generation }

/-- An endpoint that a run has missed.  One that was lost already stays as it was. -/
def EndpointLost (now : Timestamp) (former stored : Endpoint) : Prop :=
  if former.isLost then stored = former
  else ∃ generation : String, stored =
    { former with
      visibility := .lost
      notSeenSince := some now
      generationId := some generation }

theorem applicationFound_found {discovererId : String} {seen : Application}
    (owned : seen.discovererId = some discovererId) :
    ApplicationFound discovererId seen seen.found :=
  ⟨owned, rfl, rfl, rfl, rfl, rfl, rfl, rfl, rfl, rfl, rfl, rfl, rfl⟩

theorem applicationFound_rediscovered {discovererId : String} {stored : Application}
    (owned : stored.discovererId = some discovererId) (seen : Application) :
    ApplicationFound discovererId seen (stored.rediscovered seen).found :=
  ⟨owned, rfl, rfl, rfl, rfl, rfl, rfl, rfl, rfl, rfl, rfl, rfl, rfl⟩

/-- Who wrote an application, when and in which generation does not tell whether it
is found. -/
theorem ApplicationFound.restamped {discovererId : String} {seen stored : Application}
    (found : ApplicationFound discovererId seen stored) (created updated : Option Model.Context)
    (generation : Option String) :
    ApplicationFound discovererId seen
      { stored with created := created, updated := updated, generationId := generation } := by
  cases found
  constructor <;> assumption

theorem endpointFound_found {discovererId : String} {seen : Endpoint}
    (owned : seen.discovererId = some discovererId) :
    EndpointFound discovererId seen seen.found :=
  ⟨owned, rfl, rfl, rfl, rfl, rfl, rfl, rfl, rfl, rfl⟩

theorem endpointFound_rediscovered {discovererId : String} {stored : Endpoint}
    (owned : stored.discovererId = some discovererId) (seen : Endpoint) :
    EndpointFound discovererId seen (stored.rediscovered seen).found :=
  ⟨owned, rfl, rfl, rfl, rfl, rfl, rfl, rfl, rfl, rfl⟩

theorem EndpointFound.restamped {discovererId : String} {seen stored : Endpoint}
    (found : EndpointFound discovererId seen stored) (generation : Option String) :
    EndpointFound discovererId seen { stored with generationId := generation } := by
  cases found
  constructor <;> assumption

section Outlook

variable {run : Run} {now : Timestamp} {results : List ResultRecord}
  {before after : Store Application} {id : String}

theorem discovererId_of_firstApplication {discovererId : String} {seen : Application}
    (sighted : firstApplication (sightings discovererId results) id = some seen) :
    seen.discovererId = some discovererId := by
  obtain ⟨sighting, member, rfl⟩ := List.mem_map.mp (List.mem_of_find?_eq_some sighted)
  exact (discovererId_of_mem_sightings member).1

theorem discovererId_of_lastEndpoint {discovererId : String} {seen : Endpoint}
    (sighted : lastEndpoint (sightings discovererId results) id = some seen) :
    seen.discovererId = some discovererId := by
  obtain ⟨sighting, member, rfl⟩ :=
    List.mem_map.mp (List.mem_reverse.mp (List.mem_of_find?_eq_some sighted))
  exact (discovererId_of_mem_sightings member).2

theorem applicationFound_of_outlook {seen : Application}
    (became : before.Becomes (applicationOutlook run now results) after)
    (sighted : firstApplication (sightings run.discovererId results) id = some seen)
    (isOpen : Store.IsOpen run.discovererId (before.get? id)) :
    ∃ stored, after.get? id = some stored ∧ ApplicationFound run.discovererId seen stored := by
  apply Treatment.exists_of_seen became sighted isOpen
  · intro generation
    have found := applicationFound_found (discovererId_of_firstApplication sighted)
    exact found.restamped _ _ _
  · intro generation former entity owned change
    obtain ⟨-, rfl⟩ := refreshedApplication_eq_some_iff.mp change
    exact (applicationFound_rediscovered owned seen).restamped _ _ _
  · intro former owned unchanged
    have same : (former.rediscovered seen).found = former :=
      refreshedApplication_eq_none_iff.mp unchanged
    exact same ▸ applicationFound_rediscovered owned seen

theorem applicationLost_of_outlook {former : Application}
    (became : before.Becomes (applicationOutlook run now results) after)
    (present : before.get? id = some former)
    (owned : former.discovererId = some run.discovererId)
    (missed : firstApplication (sightings run.discovererId results) id = none) :
    ∃ stored, after.get? id = some stored ∧ ApplicationLost run now former stored := by
  apply Treatment.exists_of_missed became missed present owned
  · intro generation entity change
    obtain ⟨present, rfl⟩ := lostApplication_eq_some_iff.mp change
    simp only [ApplicationLost, present]
    exact ⟨generation, rfl⟩
  · intro unchanged
    have lost : former.isLost := lostApplication_eq_none_iff.mp unchanged
    simp [ApplicationLost, lost]

variable {applications : Store Application} {beforeEndpoints afterEndpoints : Store Endpoint}

theorem endpointFound_of_outlook {seen : Endpoint}
    (became : beforeEndpoints.Becomes (endpointOutlook run now applications results)
      afterEndpoints)
    (sighted : lastEndpoint (sightings run.discovererId results) id = some seen)
    (mayWrite : Store.IsOpen run.discovererId (applications.get? seen.applicationId))
    (isOpen : Store.IsOpen run.discovererId (beforeEndpoints.get? id)) :
    ∃ stored, afterEndpoints.get? id = some stored ∧
      EndpointFound run.discovererId seen stored := by
  have shown : seenEndpoint run applications (sightings run.discovererId results) id =
      some seen := by
    simp [seenEndpoint, sighted, mayWrite]
  apply Treatment.exists_of_seen became shown isOpen
  · intro generation
    have found := endpointFound_found (discovererId_of_lastEndpoint sighted)
    exact found.restamped _
  · intro generation former entity owned change
    obtain ⟨-, rfl⟩ := refreshedEndpoint_eq_some_iff.mp change
    exact (endpointFound_rediscovered owned seen).restamped _
  · intro former owned unchanged
    have same : (former.rediscovered seen).found = former :=
      refreshedEndpoint_eq_none_iff.mp unchanged
    exact same ▸ endpointFound_rediscovered owned seen

theorem endpointLost_of_outlook {former : Endpoint}
    (became : beforeEndpoints.Becomes (endpointOutlook run now applications results)
      afterEndpoints)
    (present : beforeEndpoints.get? id = some former)
    (owned : former.discovererId = some run.discovererId)
    (missed : seenEndpoint run applications (sightings run.discovererId results) id = none) :
    ∃ stored, afterEndpoints.get? id = some stored ∧ EndpointLost now former stored := by
  apply Treatment.exists_of_missed became missed present owned
  · intro generation entity change
    obtain ⟨present, rfl⟩ := lostEndpoint_eq_some_iff.mp change
    simp only [EndpointLost, present]
    exact ⟨generation, rfl⟩
  · intro unchanged
    have lost : former.isLost := lostEndpoint_eq_none_iff.mp unchanged
    simp [EndpointLost, lost]

end Outlook

/-- The registry that a run leaves. -/
structure Reconciled (run : Run) (now : Timestamp) (results : List ResultRecord)
    (before after : Contents) : Prop where
  wellKept : after.WellKept
  /-- every application is written as the outlook has it, or else left exactly as it was -/
  applications : before.applications.Becomes (applicationOutlook run now results)
    after.applications
  /-- every endpoint is written as the outlook has it, or else left exactly as it was -/
  endpoints : before.endpoints.Becomes (endpointOutlook run now before.applications results)
    after.endpoints
  /-- what the first record says of an application that was absent or the discoverer's -/
  applicationsFound : ∀ id seen,
    firstApplication (sightings run.discovererId results) id = some seen →
    Store.IsOpen run.discovererId (before.applications.get? id) →
    ∃ stored, after.applications.get? id = some stored ∧
      ApplicationFound run.discovererId seen stored
  /-- what the last record says of an endpoint of such an application that was absent or
  the discoverer's -/
  endpointsFound : ∀ id seen,
    lastEndpoint (sightings run.discovererId results) id = some seen →
    Store.IsOpen run.discovererId (before.applications.get? seen.applicationId) →
    Store.IsOpen run.discovererId (before.endpoints.get? id) →
    ∃ stored, after.endpoints.get? id = some stored ∧ EndpointFound run.discovererId seen stored
  /-- the discoverer's other applications -/
  applicationsLost : ∀ id former, before.applications.get? id = some former →
    former.discovererId = some run.discovererId →
    firstApplication (sightings run.discovererId results) id = none →
    ∃ stored, after.applications.get? id = some stored ∧ ApplicationLost run now former stored
  /-- the discoverer's other endpoints -/
  endpointsLost : ∀ id former, before.endpoints.get? id = some former →
    former.discovererId = some run.discovererId →
    (∀ seen, lastEndpoint (sightings run.discovererId results) id = some seen →
      ¬Store.IsOpen run.discovererId (before.applications.get? seen.applicationId)) →
    ∃ stored, after.endpoints.get? id = some stored ∧ EndpointLost now former stored
  /-- what somebody else owns -/
  foreignApplications : ∀ id former, before.applications.get? id = some former →
    former.discovererId ≠ some run.discovererId → after.applications.get? id = some former
  foreignEndpoints : ∀ id former, before.endpoints.get? id = some former →
    former.discovererId ≠ some run.discovererId → after.endpoints.get? id = some former
  /-- what is neither there nor seen -/
  absentApplications : ∀ id, before.applications.get? id = none →
    firstApplication (sightings run.discovererId results) id = none →
    after.applications.get? id = none
  absentEndpoints : ∀ id, before.endpoints.get? id = none →
    (∀ seen, lastEndpoint (sightings run.discovererId results) id = some seen →
      ¬Store.IsOpen run.discovererId (before.applications.get? seen.applicationId)) →
    after.endpoints.get? id = none

theorem seenEndpoint_eq_none {run : Run} {before : Store Application}
    {seen : List (Application × Endpoint)} {id : String}
    (hidden : ∀ endpoint, lastEndpoint seen id = some endpoint →
      ¬Store.IsOpen run.discovererId (before.get? endpoint.applicationId)) :
    seenEndpoint run before seen id = none := by
  unfold seenEndpoint
  cases last : lastEndpoint seen id with
  | none => rfl
  | some endpoint => simp [Option.filter_some, hidden endpoint last]

theorem reconciled_of_becomes {run : Run} {now : Timestamp} {results : List ResultRecord}
    {before after : Contents} (wellKept : after.WellKept)
    (applications : before.applications.Becomes (applicationOutlook run now results)
      after.applications)
    (endpoints : before.endpoints.Becomes (endpointOutlook run now before.applications results)
      after.endpoints) : Reconciled run now results before after where
  wellKept := wellKept
  applications := applications
  endpoints := endpoints
  applicationsFound _ _ sighted isOpen := applicationFound_of_outlook applications sighted isOpen
  endpointsFound _ _ sighted mayWrite isOpen :=
    endpointFound_of_outlook endpoints sighted mayWrite isOpen
  applicationsLost _ _ present owned missed :=
    applicationLost_of_outlook applications present owned missed
  endpointsLost _ _ present owned hidden :=
    endpointLost_of_outlook endpoints present owned (seenEndpoint_eq_none hidden)
  foreignApplications _ _ present foreign :=
    Treatment.get?_of_foreign applications present foreign
  foreignEndpoints _ _ present foreign := Treatment.get?_of_foreign endpoints present foreign
  absentApplications _ absent missed := Treatment.get?_of_absent applications absent missed
  absentEndpoints _ absent hidden :=
    Treatment.get?_of_absent endpoints absent (seenEndpoint_eq_none hidden)

/-- The full effect of an undisturbed reconciliation: it ends with the tally of its
batch, and every entity of both stores is found, lost or left alone as the batch
demands.  Endpoint ids only have to tell the applications of the batch apart. -/
theorem reconcile_leaves_reconciled (supply : Nat → String) (run : Run) (now : Timestamp)
    (results : List ResultRecord) (before : Contents) (kept : before.WellKept)
    (separate : Separate (sightings run.discovererId results)) :
    ∃ after : Contents,
      (reconcile run now results).run (Contents.handler supply) before =
        (.ok (tally run before results), after) ∧
      Reconciled run now results before after := by
  obtain ⟨after, ran, wellKept, applications, endpoints⟩ :=
    run_reconcile supply run now results kept separate
  exact ⟨after, ran, reconciled_of_becomes wellKept applications endpoints⟩

/-- A record of a server at an url. -/
def recordOf (url : String) : ResultRecord where
  index := 0
  timestamp := Timestamp.epoch
  application := some { applicationId := "", applicationUri := "urn:server" }
  endpoint := some { id := "", applicationId := "", endpointUrl := url }

/-- A registry of one server with an endpoint, and of somebody else's server. -/
def smallRegistry : Contents where
  applications :=
    { entries :=
        [("uas1", { applicationId := "uas1", applicationUri := "urn:gone",
                    discovererId := some "gate", generationId := some "1" }),
         ("uas2", { applicationId := "uas2", applicationUri := "urn:foreign",
                    discovererId := some "fence", generationId := some "2" })]
      writes := 2 }
  endpoints :=
    { entries :=
        [("uat1", { id := "uat1", applicationId := "uas1", endpointUrl := "opc.tcp://gone",
                    discovererId := some "gate", generationId := some "1" })]
      writes := 1 }

/-- A run on behalf of the owner of that server. -/
def smallRun : Run where
  discovererId := "gate"
  context := ⟨none, Timestamp.epoch⟩
  attempts := 3

/-- The server that the run has seen instead, at two urls. -/
def smallBatch : List ResultRecord :=
  [recordOf "opc.tcp://a", recordOf "opc.tcp://b"]

theorem small_run_leaves_reconciled :
    smallRegistry.WellKept ∧ Separate (sightings smallRun.discovererId smallBatch) ∧
    ∃ after : Contents,
      (reconcile smallRun Timestamp.epoch smallBatch).run (Contents.handler toString)
          smallRegistry =
        (.ok (tally smallRun smallRegistry smallBatch), after) ∧
      Reconciled smallRun Timestamp.epoch smallBatch smallRegistry after := by
  have kept : smallRegistry.WellKept := ⟨⟨by decide, by decide⟩, ⟨by decide, by decide⟩⟩
  have alone : ∀ result ∈ smallBatch,
      result.application = some { applicationId := "", applicationUri := "urn:server" } := by
    simp [smallBatch, recordOf]
  have separate : Separate (sightings smallRun.discovererId smallBatch) :=
    separate_of_one_application alone
  exact ⟨kept, separate, reconcile_leaves_reconciled toString smallRun Timestamp.epoch smallBatch
    smallRegistry kept separate⟩

end FieldSurvey.Registry
