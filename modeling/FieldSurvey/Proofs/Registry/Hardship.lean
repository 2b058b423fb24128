import FieldSurvey.Proofs.Registry.Reconciliation
import FieldSurvey.Proofs.Registry.Unreliable

/-!
# Reconciliations over unreliable stores

What the passes of a reconciliation make of stores whose calls may fail.  Every entity that a
pass comes to is treated as the plan of the run has it, or else is left as it was.  The
endpoints that are written are those of applications that the discoverer owns by then, and
the run accounts for whatever it has come to, and for the endpoints of all applications that
were listed for it.
-/

namespace FieldSurvey.Registry

open Model (Application Endpoint Registration ResultRecord)
open Time (Timestamp)

/-- Which calls of the two stores fail, and how. -/
structure FaultPattern where
  applications : Nat → Option Fault
  endpoints : Nat → Option Fault

/-- The two stores of a registry with the calls that they were asked. -/
structure UnreliableRegistry where
  applications : UnreliableStore Application
  endpoints : UnreliableStore Endpoint

namespace UnreliableRegistry

/-- The registry before the first call. -/
def of (contents : Contents) : UnreliableRegistry where
  applications := { store := contents.applications }
  endpoints := { store := contents.endpoints }

/-- What the stores hold. -/
def contents (registry : UnreliableRegistry) : Contents where
  applications := registry.applications.store
  endpoints := registry.endpoints.store

/-- Two unreliable stores answer the calls of the registry. -/
def handler (supply : Nat → String) (faults : FaultPattern) :
    Program.Handler Calls UnreliableRegistry :=
  fun request registry =>
    match request with
    | .application request =>
      let (reply, applications) :=
        UnreliableStore.handler supply faults.applications request registry.applications
      (reply, { registry with applications })
    | .endpoint request =>
      let (reply, endpoints) :=
        UnreliableStore.handler supply faults.endpoints request registry.endpoints
      (reply, { registry with endpoints })

end UnreliableRegistry

variable {supply : Nat → String} {faults : FaultPattern}

@[simp]
theorem run_onApplications_unreliable {β : Type}
    (program : Program (StoreSignature Application) β) (registry : UnreliableRegistry) :
    (onApplications program).run (UnreliableRegistry.handler supply faults) registry =
      ((program.run (UnreliableStore.handler supply faults.applications) registry.applications).1,
        { registry with
          applications := (program.run (UnreliableStore.handler supply faults.applications)
            registry.applications).2 }) :=
  Program.run_translate UnreliableRegistry.applications
    (fun applications registry => { registry with applications })
    (fun _ _ => rfl) (fun _ => rfl) (fun _ _ _ => rfl) (fun _ _ => rfl) program registry

@[simp]
theorem run_onEndpoints_unreliable {β : Type}
    (program : Program (StoreSignature Endpoint) β) (registry : UnreliableRegistry) :
    (onEndpoints program).run (UnreliableRegistry.handler supply faults) registry =
      ((program.run (UnreliableStore.handler supply faults.endpoints) registry.endpoints).1,
        { registry with
          endpoints := (program.run (UnreliableStore.handler supply faults.endpoints)
            registry.endpoints).2 }) :=
  Program.run_translate UnreliableRegistry.endpoints
    (fun endpoints registry => { registry with endpoints })
    (fun _ _ => rfl) (fun _ => rfl) (fun _ _ _ => rfl) (fun _ _ => rfl) program registry

/-! ## Plans -/

/-- What a run is to make of every application, by what it has seen. -/
def applicationPlan (run : Run) (now : Timestamp) (seen : List (Application × Endpoint)) :
    Intent Application :=
  (applicationTreatment run now).outlook (firstApplication seen)

/-- What a run is to make of every endpoint, by what it has seen. -/
def endpointPlan (run : Run) (now : Timestamp) (seen : List (Application × Endpoint)) :
    Intent Endpoint :=
  (endpointTreatment run now).outlook (lastEndpoint seen)

/-- An intent that leaves the owners of entities alone. -/
def Intent.KeepsOwners {α : Type} [Entity α] (intent : Intent α) : Prop :=
  ∀ ⦃id former entity⦄, intent id (some former) = some entity →
    Entity.discovererId entity = Entity.discovererId former

theorem Treatment.keepsOwners {α : Type} [Entity α] [NaturedEntity α] {treatment : Treatment α}
    (revises : ∀ seen, KeepsNature (treatment.revise seen)) (loses : KeepsNature treatment.lose)
    (seen? : String → Option α) : (treatment.outlook seen?).KeepsOwners := by
  intro id former entity intended
  apply NaturedEntity.discovererId_of_nature
  by_cases owned : Entity.discovererId former = some treatment.discovererId
  · cases sighted : seen? id with
    | none =>
        rw [outlook_missed sighted owned] at intended
        exact loses intended
    | some seen =>
        rw [outlook_owned sighted owned] at intended
        exact revises seen intended
  · rw [outlook_foreign owned] at intended
    contradiction

theorem applicationPlan_keepsOwners (run : Run) (now : Timestamp)
    (seen : List (Application × Endpoint)) : (applicationPlan run now seen).KeepsOwners :=
  Treatment.keepsOwners (keepsNature_refreshedApplication run)
    (keepsNature_lostApplication run now) _

theorem endpointPlan_keepsOwners (run : Run) (now : Timestamp)
    (seen : List (Application × Endpoint)) : (endpointPlan run now seen).KeepsOwners :=
  Treatment.keepsOwners keepsNature_refreshedEndpoint (keepsNature_lostEndpoint now) _

/-! ## Single candidates -/

section Candidate

variable {run : Run} {now : Timestamp} {sighted : List (Application × Endpoint)}
  {registry : UnreliableRegistry}

/-- What comes of writing a candidate application. -/
structure ApplicationWritten (run : Run) (plan : Intent Application) (id : String)
    (before after : UnreliableStore Application) (outcome : Outcome) (failures : Nat) : Prop where
  treated : Treated plan [id] before after failures
  owned_of_written : outcome = .written → Store.IsOwned run.discovererId (after.store.get? id)

variable (supply faults) in
theorem run_addApplication_unreliable {seen : Application}
    (intended : applicationPlan run now sighted seen.applicationId none =
      some (newApplication run seen))
    (kept : registry.applications.store.WellKept)
    (own : seen.discovererId = some run.discovererId) (summary : Summary) :
    ∃ outcome counted after failures,
      (addApplication run seen summary).run (UnreliableRegistry.handler supply faults) registry =
        ((outcome, counted), { registry with applications := after }) ∧
      counted.failed = summary.failed + failures ∧
      ApplicationWritten run (applicationPlan run now sighted) seen.applicationId
        registry.applications after outcome failures := by
  obtain ⟨reply, after, answered, came⟩ :=
    handler_add supply faults.applications (newApplication run seen) intended kept
  have asked : UnreliableRegistry.handler supply faults
      (.application (.add (newApplication run seen))) registry =
        (reply, { registry with applications := after }) := by
    simp only [UnreliableRegistry.handler, answered]
  cases reply with
  | ok stored =>
      obtain ⟨treated, generation, stands⟩ := came
      refine ⟨.written, { summary with added := summary.added + 1 }, after, 0, ?_, rfl, treated,
        fun _ => ?_⟩
      · simp [addApplication, Program.ask, asked]
      · have sameOwner : Entity.discovererId (newApplication run seen) =
            some run.discovererId := own
        rw [show after.store.get? seen.applicationId = _ from stands]
        simp [sameOwner]
  | error fault =>
      cases fault with
      | conflict id =>
          refine ⟨.skipped, { summary with skipped := summary.skipped + 1 }, after, 0, ?_, rfl,
            came, by simp⟩
          simp [addApplication, Program.ask, asked]
      | _ =>
          refine ⟨.failed, { summary with failed := summary.failed + 1 }, after, 1, ?_, rfl,
            came, by simp⟩
          simp [addApplication, Program.ask, asked]

variable (supply faults now) in
/-- Writing a candidate application.  One that was listed stays the discoverer's. -/
theorem run_writeApplication_unreliable (listed : List String) {seen : Application}
    (sight : firstApplication sighted seen.applicationId = some seen)
    (kept : registry.applications.store.WellKept)
    (announced : Announces registry.applications.store run.discovererId listed seen.applicationId)
    (own : seen.discovererId = some run.discovererId) (summary : Summary) :
    ∃ outcome counted after failures,
      (writeApplication run (listed.contains seen.applicationId) seen summary).run
          (UnreliableRegistry.handler supply faults) registry =
        ((outcome, counted), { registry with applications := after }) ∧
      counted.failed = summary.failed + failures ∧
      ApplicationWritten run (applicationPlan run now sighted) seen.applicationId
        registry.applications after outcome failures ∧
      (seen.applicationId ∈ listed → outcome ≠ .skipped ∧
        Store.IsOwned run.discovererId (after.store.get? seen.applicationId)) := by
  by_cases isListed : seen.applicationId ∈ listed
  · obtain ⟨current, present, owned⟩ := announced.mp isListed
    have intended : applicationPlan run now sighted seen.applicationId (some current) =
        refreshedApplication run seen current := Treatment.outlook_owned sight owned
    obtain ⟨revision, after, ran, revised⟩ := run_revise_unreliable supply faults.applications
      (keepsIdentity_refreshedApplication run seen) intended run.attempts kept present
    have isOwned : Store.IsOwned run.discovererId (after.store.get? seen.applicationId) := by
      apply revised.treated.isOwned (applicationPlan_keepsOwners run now sighted)
      exact Store.isOwned_iff.mpr ⟨current, present, owned⟩
    have inListed : listed.contains seen.applicationId = true := by simpa using isListed
    have treated := revised.treated
    simp only [inListed, writeApplication, if_true, Program.bind_eq, Program.run_bind,
      run_onApplications_unreliable, ran]
    rcases revision with ⟨fault | _ | stored, applied, changed⟩
    · exact ⟨.failed, _, after, 1, rfl, rfl, ⟨treated, fun _ => isOwned⟩,
        fun _ => ⟨by simp, isOwned⟩⟩
    · exact absurd rfl revised.found
    · cases changed with
      | true => exact ⟨.written, _, after, 0, rfl, rfl, ⟨treated, fun _ => isOwned⟩,
          fun _ => ⟨by simp, isOwned⟩⟩
      | false => exact ⟨.written, _, after, 0, rfl, rfl, ⟨treated, fun _ => isOwned⟩,
          fun _ => ⟨by simp, isOwned⟩⟩
  · have unlisted : listed.contains seen.applicationId = false := by simpa using isListed
    have intended : applicationPlan run now sighted seen.applicationId none =
        some (newApplication run seen) := Treatment.outlook_free sight
    obtain ⟨outcome, counted, after, failures, ran, failed, written⟩ :=
      run_addApplication_unreliable supply faults intended kept own summary
    refine ⟨outcome, counted, after, failures, ?_, failed, written, fun member => ?_⟩
    · rw [unlisted]
      exact ran
    · exact absurd member isListed

variable (supply faults) in
theorem run_addEndpoint_unreliable {seen : Endpoint}
    (intended : endpointPlan run now sighted seen.id none = some (newEndpoint seen))
    (kept : registry.endpoints.store.WellKept) (summary : Summary) :
    ∃ counted after failures,
      (addEndpoint seen summary).run (UnreliableRegistry.handler supply faults) registry =
        (counted, { registry with endpoints := after }) ∧
      counted.failed = summary.failed + failures ∧
      Treated (endpointPlan run now sighted) [seen.id] registry.endpoints after failures := by
  obtain ⟨reply, after, answered, came⟩ :=
    handler_add supply faults.endpoints (newEndpoint seen) intended kept
  have asked : UnreliableRegistry.handler supply faults (.endpoint (.add (newEndpoint seen)))
      registry = (reply, { registry with endpoints := after }) := by
    simp only [UnreliableRegistry.handler, answered]
  cases reply with
  | ok stored =>
      refine ⟨{ summary with added := summary.added + 1 }, after, 0, ?_, rfl, came.1⟩
      simp [addEndpoint, Program.ask, asked]
  | error fault =>
      cases fault with
      | conflict id =>
          refine ⟨{ summary with skipped := summary.skipped + 1 }, after, 0, ?_, rfl, came⟩
          simp [addEndpoint, Program.ask, asked]
      | _ =>
          refine ⟨{ summary with failed := summary.failed + 1 }, after, 1, ?_, rfl, came⟩
          simp [addEndpoint, Program.ask, asked]

variable (supply faults now) in
/-- Writing a candidate endpoint. -/
theorem run_writeEndpoint_unreliable (listed : List String) {seen : Endpoint}
    (sight : lastEndpoint sighted seen.id = some seen)
    (kept : registry.endpoints.store.WellKept)
    (announced : Announces registry.endpoints.store run.discovererId listed seen.id)
    (summary : Summary) :
    ∃ counted after failures,
      (writeEndpoint run (listed.contains seen.id) seen summary).run
          (UnreliableRegistry.handler supply faults) registry =
        (counted, { registry with endpoints := after }) ∧
      counted.failed = summary.failed + failures ∧
      Treated (endpointPlan run now sighted) [seen.id] registry.endpoints after failures := by
  by_cases isListed : seen.id ∈ listed
  · obtain ⟨current, present, owned⟩ := announced.mp isListed
    have intended : endpointPlan run now sighted seen.id (some current) =
        refreshedEndpoint seen current := Treatment.outlook_owned sight owned
    obtain ⟨revision, after, ran, revised⟩ := run_revise_unreliable supply faults.endpoints
      (keepsIdentity_refreshedEndpoint seen) intended run.attempts kept present
    have inListed : listed.contains seen.id = true := by simpa using isListed
    have treated := revised.treated
    simp only [inListed, writeEndpoint, if_true, Program.bind_eq, Program.run_bind,
      run_onEndpoints_unreliable, ran]
    rcases revision with ⟨fault | _ | stored, applied, changed⟩
    · exact ⟨_, after, 1, rfl, rfl, treated⟩
    · exact absurd rfl revised.found
    · cases changed with
      | true => exact ⟨_, after, 0, rfl, rfl, treated⟩
      | false => exact ⟨_, after, 0, rfl, rfl, treated⟩
  · have unlisted : listed.contains seen.id = false := by simpa using isListed
    have intended : endpointPlan run now sighted seen.id none = some (newEndpoint seen) :=
      Treatment.outlook_free sight
    rw [unlisted]
    exact run_addEndpoint_unreliable supply faults intended kept summary

variable (supply faults now registry) in
/-- Writing the endpoints of a candidate. -/
theorem run_writeEndpoints_unreliable (listed : Listed) {endpoints : List Endpoint}
    (nodup : (endpoints.map Endpoint.id).Nodup)
    (sight : ∀ endpoint ∈ endpoints, lastEndpoint sighted endpoint.id = some endpoint)
    (kept : registry.endpoints.store.WellKept)
    (announced : ∀ endpoint ∈ endpoints,
      Announces registry.endpoints.store run.discovererId listed.endpoints endpoint.id)
    (seen : Seen) (summary : Summary) :
    ∃ counted after failures,
      (writeEndpoints run listed endpoints seen summary).run
          (UnreliableRegistry.handler supply faults) registry =
        (({ seen with endpoints := seen.endpoints ++ endpoints.map Endpoint.id }, counted),
          { registry with endpoints := after }) ∧
      counted.failed = summary.failed + failures ∧
      Treated (endpointPlan run now sighted) (endpoints.map Endpoint.id) registry.endpoints after
        failures := by
  induction endpoints generalizing registry seen summary with
  | nil => exact ⟨summary, registry.endpoints, 0, by simp [writeEndpoints], rfl, .nil kept⟩
  | cons first rest ih =>
      rw [List.map_cons, List.nodup_cons] at nodup
      obtain ⟨counted, middle, failures, ran, failed, treated⟩ :=
        run_writeEndpoint_unreliable supply faults now listed.endpoints
          (sight first List.mem_cons_self) kept (announced first List.mem_cons_self) summary
      have others : ∀ endpoint ∈ rest, Announces middle.store run.discovererId listed.endpoints
          endpoint.id := by
        intro endpoint member
        refine (announced endpoint (List.mem_cons_of_mem first member)).congr ?_
        apply treated.get?_of_not_mem
        intro same
        exact nodup.1 (List.mem_map.mpr ⟨endpoint, member, List.mem_singleton.mp same⟩)
      obtain ⟨final, after, more, ranRest, failedRest, treatedRest⟩ :=
        ih { registry with endpoints := middle } nodup.2
          (fun endpoint member => sight endpoint (List.mem_cons_of_mem first member))
          treated.wellKept others { seen with endpoints := seen.endpoints ++ [first.id] } counted
      refine ⟨final, after, failures + more, ?_, by omega, ?_⟩
      · simp only [writeEndpoints, Program.bind_eq, Program.run_bind, ran, ranRest]
        simp
      · apply treated.append treatedRest
        intro id only again
        exact nodup.1 (List.mem_singleton.mp only ▸ again)

end Candidate

/-! ## All candidates -/

/-- What a run has accounted for, and some more. -/
def Seen.plus (seen fresh : Seen) : Seen where
  applications := seen.applications ++ fresh.applications
  endpoints := seen.endpoints ++ fresh.endpoints

theorem Seen.plus_plus (first second third : Seen) :
    (first.plus second).plus third = first.plus (second.plus third) := by
  simp [plus]

/-- What comes of writing candidates.  Some of their endpoints are written, and some of their
ids are accounted for. -/
structure CandidatesWritten (run : Run) (now : Timestamp)
    (sighted : List (Application × Endpoint)) (listed : Listed) (candidates : List Registration)
    (before after : UnreliableRegistry) (fresh : Seen) (written : List Endpoint)
    (applicationFailures endpointFailures : Nat) : Prop where
  applications : Treated (applicationPlan run now sighted)
    (candidates.map (·.application.applicationId)) before.applications after.applications
    applicationFailures
  endpoints : Treated (endpointPlan run now sighted) (written.map Endpoint.id) before.endpoints
    after.endpoints endpointFailures
  sublist : written.Sublist (allEndpoints candidates)
  /-- endpoints are written for applications that the discoverer owns -/
  owned : ∀ endpoint ∈ written,
    Store.IsOwned run.discovererId (after.applications.store.get? endpoint.applicationId)
  mem_fresh : ∀ endpoint ∈ written, endpoint.id ∈ fresh.endpoints
  applications_subset : fresh.applications ⊆ candidates.map (·.application.applicationId)
  endpoints_subset : fresh.endpoints ⊆ (allEndpoints candidates).map Endpoint.id
  /-- what was listed is accounted for, and so are the endpoints of what was listed -/
  complete : ∀ candidate ∈ candidates,
    candidate.application.applicationId ∈ listed.applications →
      candidate.application.applicationId ∈ fresh.applications ∧
      ∀ endpoint ∈ candidate.endpoints, endpoint.id ∈ fresh.endpoints

section Candidates

variable {run : Run} {now : Timestamp} {sighted : List (Application × Endpoint)} {listed : Listed}

theorem CandidatesWritten.append {front back : List Registration}
    {before middle after : UnreliableRegistry} {first second : Seen} {some more : List Endpoint}
    {applications endpoints applicationsLater endpointsLater : Nat}
    (wroteFront : CandidatesWritten run now sighted listed front before middle first some
      applications endpoints)
    (wroteBack : CandidatesWritten run now sighted listed back middle after second more
      applicationsLater endpointsLater)
    (applicationsApart : ∀ id ∈ front.map (·.application.applicationId),
      id ∉ back.map (·.application.applicationId))
    (endpointsApart : ∀ id ∈ (allEndpoints front).map Endpoint.id,
      id ∉ (allEndpoints back).map Endpoint.id) :
    CandidatesWritten run now sighted listed (front ++ back) before after (first.plus second)
      (some ++ more) (applications + applicationsLater) (endpoints + endpointsLater) where
  applications := by
    rw [List.map_append]
    exact wroteFront.applications.append wroteBack.applications applicationsApart
  endpoints := by
    rw [List.map_append]
    apply wroteFront.endpoints.append wroteBack.endpoints
    intro id inSome inMore
    exact endpointsApart id ((wroteFront.sublist.map Endpoint.id).subset inSome)
      ((wroteBack.sublist.map Endpoint.id).subset inMore)
  sublist := by
    rw [allEndpoints_append]
    exact wroteFront.sublist.append wroteBack.sublist
  owned endpoint member := by
    rcases List.mem_append.mp member with inSome | inMore
    · exact wroteBack.applications.isOwned (applicationPlan_keepsOwners run now sighted)
        (wroteFront.owned endpoint inSome)
    · exact wroteBack.owned endpoint inMore
  mem_fresh endpoint member := by
    rcases List.mem_append.mp member with inSome | inMore
    · exact List.mem_append_left _ (wroteFront.mem_fresh endpoint inSome)
    · exact List.mem_append_right _ (wroteBack.mem_fresh endpoint inMore)
  applications_subset := by
    rw [List.map_append]
    exact List.append_subset.mpr
      ⟨fun id member => List.mem_append_left _ (wroteFront.applications_subset member),
        fun id member => List.mem_append_right _ (wroteBack.applications_subset member)⟩
  endpoints_subset := by
    rw [allEndpoints_append, List.map_append]
    exact List.append_subset.mpr
      ⟨fun id member => List.mem_append_left _ (wroteFront.endpoints_subset member),
        fun id member => List.mem_append_right _ (wroteBack.endpoints_subset member)⟩
  complete candidate member isListed := by
    rcases List.mem_append.mp member with inFront | inBack
    · obtain ⟨seen, seenEndpoints⟩ := wroteFront.complete candidate inFront isListed
      exact ⟨List.mem_append_left _ seen,
        fun endpoint inCandidate => List.mem_append_left _ (seenEndpoints endpoint inCandidate)⟩
    · obtain ⟨seen, seenEndpoints⟩ := wroteBack.complete candidate inBack isListed
      exact ⟨List.mem_append_right _ seen,
        fun endpoint inCandidate => List.mem_append_right _ (seenEndpoints endpoint inCandidate)⟩

/-- What a batch tells of candidates. -/
structure Sighted (run : Run) (sighted : List (Application × Endpoint))
    (candidates : List Registration) : Prop where
  applications : ∀ candidate ∈ candidates,
    firstApplication sighted candidate.application.applicationId = some candidate.application
  endpoints : ∀ endpoint ∈ allEndpoints candidates,
    lastEndpoint sighted endpoint.id = some endpoint
  own : ∀ candidate ∈ candidates, candidate.application.discovererId = some run.discovererId
  belongs : ∀ candidate ∈ candidates, ∀ endpoint ∈ candidate.endpoints,
    endpoint.applicationId = candidate.application.applicationId

/-- A candidate whose endpoints are passed over, since it could not be added. -/
theorem CandidatesWritten.without_endpoints {candidate : Registration}
    {before : UnreliableRegistry} {applications : UnreliableStore Application} {failures : Nat}
    {endpointIds : List String}
    (treated : Treated (applicationPlan run now sighted) [candidate.application.applicationId]
      before.applications applications failures)
    (kept : before.endpoints.store.WellKept)
    (known : endpointIds ⊆ candidate.endpoints.map Endpoint.id)
    (unlisted : candidate.application.applicationId ∉ listed.applications) :
    CandidatesWritten run now sighted listed [candidate] before { before with applications }
      { endpoints := endpointIds } [] failures 0 where
  applications := treated
  endpoints := .nil kept
  sublist := List.nil_sublist _
  owned := by simp
  mem_fresh := by simp
  applications_subset := List.nil_subset _
  endpoints_subset := by simpa using known
  complete := by
    intro other member isListed
    rw [List.mem_singleton.mp member] at isListed
    exact absurd isListed unlisted

/-- A candidate that is written with its endpoints. -/
theorem CandidatesWritten.with_endpoints {candidate : Registration}
    {before after : UnreliableRegistry} {applicationFailures endpointFailures : Nat}
    (applications : Treated (applicationPlan run now sighted)
      [candidate.application.applicationId] before.applications after.applications
      applicationFailures)
    (endpoints : Treated (endpointPlan run now sighted) (candidate.endpoints.map Endpoint.id)
      before.endpoints after.endpoints endpointFailures)
    (belongs : ∀ endpoint ∈ candidate.endpoints,
      endpoint.applicationId = candidate.application.applicationId)
    (owned : Store.IsOwned run.discovererId
      (after.applications.store.get? candidate.application.applicationId)) :
    CandidatesWritten run now sighted listed [candidate] before after
      ⟨[candidate.application.applicationId], candidate.endpoints.map Endpoint.id⟩
      candidate.endpoints applicationFailures endpointFailures where
  applications := applications
  endpoints := endpoints
  sublist := by simp
  owned := by
    intro endpoint member
    rw [belongs endpoint member]
    exact owned
  mem_fresh endpoint member := List.mem_map_of_mem member
  applications_subset := by simp
  endpoints_subset := by simp
  complete := by
    intro other member isListed
    rw [List.mem_singleton.mp member]
    exact ⟨List.mem_singleton_self _, fun endpoint inCandidate => List.mem_map_of_mem inCandidate⟩

variable (supply faults now) in
/-- Writing the first candidate. -/
theorem run_writeCandidates_cons_unreliable {registry : UnreliableRegistry}
    {candidate : Registration} (rest : List Registration)
    (sight : Sighted run sighted [candidate])
    (nodup : (candidate.endpoints.map Endpoint.id).Nodup) (kept : registry.contents.WellKept)
    (announced : Announced run listed registry.contents [candidate]) (seen : Seen)
    (summary : Summary) :
    ∃ fresh written applicationFailures endpointFailures counted after,
      (writeCandidates run listed (candidate :: rest) seen summary).run
          (UnreliableRegistry.handler supply faults) registry =
        (writeCandidates run listed rest (seen.plus fresh) counted).run
          (UnreliableRegistry.handler supply faults) after ∧
      counted.failed = summary.failed + applicationFailures + endpointFailures ∧
      CandidatesWritten run now sighted listed [candidate] registry after fresh written
        applicationFailures endpointFailures := by
  have here : candidate ∈ [candidate] := List.mem_singleton_self candidate
  obtain ⟨outcome, counted, applications, failures, ran, failed, wrote, ofListed⟩ :=
    run_writeApplication_unreliable supply faults now listed.applications
      (sight.applications candidate here) kept.applications (announced.applications candidate here)
      (sight.own candidate here) summary
  by_cases isSkipped : outcome = .skipped
  · refine ⟨{}, [], failures, 0,
      { counted with skipped := counted.skipped + candidate.endpoints.length },
      { registry with applications }, ?_, failed, ?_⟩
    · simp only [writeCandidates, Program.bind_eq, Program.run_bind, ran, isSkipped, if_true]
      simp [Seen.plus]
    · exact .without_endpoints wrote.treated kept.endpoints (List.nil_subset _)
        fun isListed => (ofListed isListed).1 isSkipped
  by_cases isNew : outcome = .failed ∧
      candidate.application.applicationId ∉ listed.applications
  · refine ⟨{ endpoints := candidate.endpoints.map Endpoint.id }, [], failures, 0, counted,
      { registry with applications }, ?_, failed, ?_⟩
    · simp only [writeCandidates, Program.bind_eq, Program.run_bind, ran]
      simp [isNew.1, isNew.2, Seen.plus]
    · exact .without_endpoints wrote.treated kept.endpoints (List.Subset.refl _) isNew.2
  · have owned : Store.IsOwned run.discovererId
        (applications.store.get? candidate.application.applicationId) := by
      by_cases isListed : candidate.application.applicationId ∈ listed.applications
      · exact (ofListed isListed).2
      · apply wrote.owned_of_written
        cases outcome with
        | written => rfl
        | skipped => contradiction
        | failed => exact absurd ⟨rfl, isListed⟩ isNew
    obtain ⟨final, endpoints, more, ranEndpoints, failedEndpoints, treatedEndpoints⟩ :=
      run_writeEndpoints_unreliable supply faults now { registry with applications } listed nodup
        (fun endpoint member => sight.endpoints endpoint
          (List.mem_flatMap.mpr ⟨candidate, here, member⟩))
        kept.endpoints
        (fun endpoint member => announced.endpoints endpoint
          (List.mem_flatMap.mpr ⟨candidate, here, member⟩))
        { seen with applications := seen.applications ++ [candidate.application.applicationId] }
        counted
    refine ⟨⟨[candidate.application.applicationId], candidate.endpoints.map Endpoint.id⟩,
      candidate.endpoints, failures, more, final, { applications, endpoints }, ?_, by omega, ?_⟩
    · have notNew : ¬(outcome = .failed ∧
          (!listed.applications.contains candidate.application.applicationId) = true) := by
        simpa using isNew
      simp only [writeCandidates, Program.bind_eq, Program.run_bind, ran, isSkipped, notNew,
        if_false, ranEndpoints]
      simp [Seen.plus]
    · exact .with_endpoints wrote.treated treatedEndpoints (sight.belongs candidate here) owned

theorem Sighted.tail {first : Registration} {rest : List Registration}
    (sight : Sighted run sighted (first :: rest)) : Sighted run sighted rest where
  applications candidate member :=
    sight.applications candidate (List.mem_cons_of_mem first member)
  endpoints endpoint member := sight.endpoints endpoint (List.mem_append_right _ member)
  own candidate member := sight.own candidate (List.mem_cons_of_mem first member)
  belongs candidate member := sight.belongs candidate (List.mem_cons_of_mem first member)

theorem Sighted.head {first : Registration} {rest : List Registration}
    (sight : Sighted run sighted (first :: rest)) : Sighted run sighted [first] where
  applications candidate member :=
    sight.applications candidate (List.mem_singleton.mp member ▸ List.mem_cons_self)
  endpoints endpoint member := by
    apply sight.endpoints endpoint
    simp only [allEndpoints_cons, allEndpoints_nil, List.append_nil] at member ⊢
    exact List.mem_append_left _ member
  own candidate member := sight.own candidate (List.mem_singleton.mp member ▸ List.mem_cons_self)
  belongs candidate member :=
    sight.belongs candidate (List.mem_singleton.mp member ▸ List.mem_cons_self)

theorem Announced.head {contents : Contents} {first : Registration} {rest : List Registration}
    (announced : Announced run listed contents (first :: rest)) :
    Announced run listed contents [first] where
  applications candidate member :=
    announced.applications candidate (List.mem_singleton.mp member ▸ List.mem_cons_self)
  endpoints endpoint member := by
    apply announced.endpoints endpoint
    simp only [allEndpoints_cons, allEndpoints_nil, List.append_nil] at member ⊢
    exact List.mem_append_left _ member

theorem CandidatesWritten.untouched {front back : List Registration}
    {before after : UnreliableRegistry} {fresh : Seen} {written : List Endpoint}
    {applications endpoints : Nat}
    (wrote : CandidatesWritten run now sighted listed front before after fresh written
      applications endpoints)
    (applicationsApart : ∀ id ∈ front.map (·.application.applicationId),
      id ∉ back.map (·.application.applicationId))
    (endpointsApart : ∀ id ∈ (allEndpoints front).map Endpoint.id,
      id ∉ (allEndpoints back).map Endpoint.id) :
    Untouched back before.contents after.contents where
  applications candidate member := by
    apply wrote.applications.get?_of_not_mem
    intro inFront
    exact applicationsApart _ inFront (List.mem_map.mpr ⟨candidate, member, rfl⟩)
  endpoints endpoint member := by
    apply wrote.endpoints.get?_of_not_mem
    intro isWritten
    exact endpointsApart _ ((wrote.sublist.map Endpoint.id).subset isWritten)
      (List.mem_map_of_mem member)

variable (supply faults now) in
/-- Writing the candidates. -/
theorem run_writeCandidates_unreliable (registry : UnreliableRegistry)
    {candidates : List Registration} (sight : Sighted run sighted candidates)
    (applicationsNodup : (candidates.map (·.application.applicationId)).Nodup)
    (endpointsNodup : ((allEndpoints candidates).map Endpoint.id).Nodup)
    (kept : registry.contents.WellKept)
    (announced : Announced run listed registry.contents candidates) (seen : Seen)
    (summary : Summary) :
    ∃ fresh written applicationFailures endpointFailures counted after,
      (writeCandidates run listed candidates seen summary).run
          (UnreliableRegistry.handler supply faults) registry =
        ((seen.plus fresh, counted), after) ∧
      counted.failed = summary.failed + applicationFailures + endpointFailures ∧
      CandidatesWritten run now sighted listed candidates registry after fresh written
        applicationFailures endpointFailures := by
  induction candidates generalizing registry seen summary with
  | nil =>
      refine ⟨{}, [], 0, 0, summary, registry, by simp [writeCandidates, Seen.plus], rfl, ?_⟩
      exact ⟨.nil kept.applications, .nil kept.endpoints, List.nil_sublist _, by simp, by simp,
        by simp, by simp, by simp⟩
  | cons first rest ih =>
      rw [List.map_cons, List.nodup_cons] at applicationsNodup
      rw [allEndpoints_cons, List.map_append] at endpointsNodup
      obtain ⟨firstNodup, restNodup, disjoint⟩ := List.nodup_append.mp endpointsNodup
      obtain ⟨fresh, written, applications, endpoints, counted, middle, ran, failed, wrote⟩ :=
        run_writeCandidates_cons_unreliable supply faults now rest sight.head firstNodup kept
          announced.head seen summary
      have applicationsApart : ∀ id ∈ [first].map (·.application.applicationId),
          id ∉ rest.map (·.application.applicationId) := by
        intro id only inRest
        have same : id = first.application.applicationId := List.mem_singleton.mp only
        exact applicationsNodup.1 (same ▸ inRest)
      have endpointsApart : ∀ id ∈ (allEndpoints [first]).map Endpoint.id,
          id ∉ (allEndpoints rest).map Endpoint.id := by
        intro id inFirst inRest
        rw [allEndpoints_cons, allEndpoints_nil, List.append_nil] at inFirst
        exact disjoint id inFirst id inRest rfl
      have untouched := wrote.untouched applicationsApart endpointsApart
      obtain ⟨later, more, applicationsLater, endpointsLater, final, after, ranRest, failedRest,
          wroteRest⟩ :=
        ih middle sight.tail applicationsNodup.2 restNodup
          ⟨wrote.applications.wellKept, wrote.endpoints.wellKept⟩
          (untouched.announced announced.tail) (seen.plus fresh) counted
      refine ⟨fresh.plus later, written ++ more, applications + applicationsLater,
        endpoints + endpointsLater, final, after, ?_, by omega,
        wrote.append wroteRest applicationsApart endpointsApart⟩
      rw [ran, ranRest, Seen.plus_plus]

end Candidates

/-! ## Making entities lost -/

section Losing

variable {run : Run} {now : Timestamp} {sighted : List (Application × Endpoint)}

theorem failed_countLost {α : Type} (revision : Revision α) (summary : Summary) :
    (countLost revision summary).failed =
      summary.failed + if revision.result.isOk then 0 else 1 := by
  rcases revision with ⟨fault | stored, applied, changed⟩
  · rfl
  · cases changed <;> rfl

variable (supply faults) in
/-- Making applications lost. -/
theorem run_loseApplications_unreliable (registry : UnreliableRegistry) {ids : List String}
    (nodup : ids.Nodup) (kept : registry.applications.store.WellKept)
    (planned : ∀ id ∈ ids, ∃ current, registry.applications.store.get? id = some current ∧
      applicationPlan run now sighted id (some current) = lostApplication run now current)
    (summary : Summary) :
    ∃ counted after failures,
      (loseApplications run now ids summary).run (UnreliableRegistry.handler supply faults)
          registry = (counted, { registry with applications := after }) ∧
      counted.failed = summary.failed + failures ∧
      Treated (applicationPlan run now sighted) ids registry.applications after failures ∧
      ∀ id ∈ ids, after.isRefused id → after.isFailed id := by
  induction ids generalizing registry summary with
  | nil => exact ⟨summary, registry.applications, 0, rfl, rfl, .nil kept, by simp⟩
  | cons first rest ih =>
      rw [List.nodup_cons] at nodup
      obtain ⟨current, present, intended⟩ := planned first List.mem_cons_self
      obtain ⟨revision, middle, ran, revised⟩ := run_revise_unreliable supply faults.applications
        (keepsIdentity_lostApplication run now) intended run.attempts kept present
      have plannedRest : ∀ id ∈ rest, ∃ current, middle.store.get? id = some current ∧
          applicationPlan run now sighted id (some current) = lostApplication run now current := by
        intro id member
        rw [revised.treated.get?_of_not_mem fun only =>
          nodup.1 (List.mem_singleton.mp only ▸ member)]
        exact planned id (List.mem_cons_of_mem first member)
      obtain ⟨counted, after, failures, ranRest, failedRest, treated, failed⟩ :=
        ih { registry with applications := middle } nodup.2 revised.treated.wellKept plannedRest
          (countLost revision summary)
      have apart : ∀ id ∈ [first], id ∉ rest := by
        intro id only inRest
        exact nodup.1 (List.mem_singleton.mp only ▸ inRest)
      refine ⟨counted, after, _, ?_, ?_, revised.treated.append treated apart, ?_⟩
      · simp only [loseApplications, Program.bind_eq, Program.run_bind,
          run_onApplications_unreliable, ran, ranRest]
      · rw [failedRest, failed_countLost, Nat.add_assoc]
      · intro id member refused
        rcases List.mem_cons.mp member with rfl | inRest
        · have same := treated.untouched id nodup.1
          rw [UnreliableStore.isRefused_congr same] at refused
          rw [UnreliableStore.isFailed_congr same]
          exact revised.failed_of_isRefused refused
        · exact failed id inRest refused

variable (supply faults) in
/-- Making endpoints lost. -/
theorem run_loseEndpoints_unreliable (registry : UnreliableRegistry) {ids : List String}
    (nodup : ids.Nodup) (kept : registry.endpoints.store.WellKept)
    (planned : ∀ id ∈ ids, ∃ current, registry.endpoints.store.get? id = some current ∧
      endpointPlan run now sighted id (some current) = lostEndpoint now current)
    (summary : Summary) :
    ∃ counted after failures,
      (loseEndpoints run now ids summary).run (UnreliableRegistry.handler supply faults)
          registry = (counted, { registry with endpoints := after }) ∧
      counted.failed = summary.failed + failures ∧
      Treated (endpointPlan run now sighted) ids registry.endpoints after failures ∧
      ∀ id ∈ ids, after.isRefused id → after.isFailed id := by
  induction ids generalizing registry summary with
  | nil => exact ⟨summary, registry.endpoints, 0, rfl, rfl, .nil kept, by simp⟩
  | cons first rest ih =>
      rw [List.nodup_cons] at nodup
      obtain ⟨current, present, intended⟩ := planned first List.mem_cons_self
      obtain ⟨revision, middle, ran, revised⟩ := run_revise_unreliable supply faults.endpoints
        (keepsIdentity_lostEndpoint now) intended run.attempts kept present
      have plannedRest : ∀ id ∈ rest, ∃ current, middle.store.get? id = some current ∧
          endpointPlan run now sighted id (some current) = lostEndpoint now current := by
        intro id member
        rw [revised.treated.get?_of_not_mem fun only =>
          nodup.1 (List.mem_singleton.mp only ▸ member)]
        exact planned id (List.mem_cons_of_mem first member)
      obtain ⟨counted, after, failures, ranRest, failedRest, treated, failed⟩ :=
        ih { registry with endpoints := middle } nodup.2 revised.treated.wellKept plannedRest
          (countLost revision summary)
      have apart : ∀ id ∈ [first], id ∉ rest := by
        intro id only inRest
        exact nodup.1 (List.mem_singleton.mp only ▸ inRest)
      refine ⟨counted, after, _, ?_, ?_, revised.treated.append treated apart, ?_⟩
      · simp only [loseEndpoints, Program.bind_eq, Program.run_bind,
          run_onEndpoints_unreliable, ran, ranRest]
      · rw [failedRest, failed_countLost, Nat.add_assoc]
      · intro id member refused
        rcases List.mem_cons.mp member with rfl | inRest
        · have same := treated.untouched id nodup.1
          rw [UnreliableStore.isRefused_congr same] at refused
          rw [UnreliableStore.isFailed_congr same]
          exact revised.failed_of_isRefused refused
        · exact failed id inRest refused

end Losing

end FieldSurvey.Registry
