import FieldSurvey.Proofs.Registry.Grouping
import FieldSurvey.Proofs.Registry.Writing

/-!
# The passes of a reconciliation

A reconciliation writes the candidates in one pass and makes what was not seen lost
in two others.  The passes go through their lists one by one; as no id occurs in a
list twice, what a pass finds under an id is what stood there when it began.
-/

namespace FieldSurvey.Registry

open Model (Application Endpoint Registration)
open Time (Timestamp)

variable {supply : Nat → String}

/-- What is to become of applications that a run has seen. -/
def applicationIntent (run : Run) : List Application → Intent Application :=
  Intent.each fun seen =>
    Store.upsert run.discovererId (newApplication run seen) (refreshedApplication run seen)

/-- What is to become of endpoints that a run has seen. -/
def endpointIntent (run : Run) : List Endpoint → Intent Endpoint :=
  Intent.each fun seen =>
    Store.upsert run.discovererId (newEndpoint seen) (refreshedEndpoint seen)

/-- The verdict on an application that a run has seen. -/
def applicationVerdict (run : Run) (before : Store Application) (seen : Application) : Verdict :=
  verdict run.discovererId (refreshedApplication run seen) (before.get? seen.applicationId)

/-- The verdict on an endpoint that a run has seen. -/
def endpointVerdict (run : Run) (before : Store Endpoint) (seen : Endpoint) : Verdict :=
  verdict run.discovererId (refreshedEndpoint seen) (before.get? seen.id)

/-- Whether a candidate may be written: its application is not somebody else's. -/
def isWritable (run : Run) (before : Store Application) (candidate : Registration) : Bool :=
  Store.IsOpen run.discovererId (before.get? candidate.application.applicationId)

/-- The verdicts on a candidate and its endpoints. -/
def candidateVerdicts (run : Run) (before : Contents) (candidate : Registration) :
    List Verdict :=
  applicationVerdict run before.applications candidate.application ::
    if isWritable run before.applications candidate then
      candidate.endpoints.map (endpointVerdict run before.endpoints)
    else List.replicate candidate.endpoints.length .skipped

theorem candidateVerdicts_congr {run : Run} {before after : Contents} {candidate : Registration}
    (sameApplication : after.applications.get? candidate.application.applicationId =
      before.applications.get? candidate.application.applicationId)
    (sameEndpoint : ∀ endpoint ∈ candidate.endpoints,
      after.endpoints.get? endpoint.id = before.endpoints.get? endpoint.id) :
    candidateVerdicts run after candidate = candidateVerdicts run before candidate := by
  have verdicts : candidate.endpoints.map (endpointVerdict run after.endpoints) =
      candidate.endpoints.map (endpointVerdict run before.endpoints) :=
    List.map_congr_left fun endpoint member => by
      simp only [endpointVerdict, sameEndpoint endpoint member]
  unfold candidateVerdicts
  rw [verdicts, applicationVerdict, applicationVerdict, isWritable, isWritable, sameApplication]

theorem Announces.congr {α : Type} [Entity α] {before after : Store α} {discovererId id : String}
    {listed : List String} (announced : Announces before discovererId listed id)
    (same : after.get? id = before.get? id) : Announces after discovererId listed id := by
  unfold Announces
  rw [same]
  exact announced

theorem foldl_skipped (count : Nat) (summary : Summary) :
    (List.replicate count Verdict.skipped).foldl Summary.record summary =
      { summary with skipped := summary.skipped + count } := by
  rw [foldl_record]
  simp [List.count_replicate]

variable (supply) in
/-- The effect of writing the endpoints of a candidate. -/
theorem run_writeEndpoints (run : Run) (listed : Listed) (endpoints : List Endpoint)
    (nodup : (endpoints.map Endpoint.id).Nodup) (contents : Contents)
    (kept : contents.endpoints.WellKept)
    (announced : ∀ endpoint ∈ endpoints,
      Announces contents.endpoints run.discovererId listed.endpoints endpoint.id)
    (seen : Seen) (summary : Summary) :
    ∃ after : Store Endpoint,
      (writeEndpoints run listed endpoints seen summary).run (Contents.handler supply) contents =
        (({ seen with endpoints := seen.endpoints ++ endpoints.map Endpoint.id },
          (endpoints.map (endpointVerdict run contents.endpoints)).foldl Summary.record summary),
          { contents with endpoints := after }) ∧
      after.WellKept ∧
      contents.endpoints.Becomes (endpointIntent run endpoints) after := by
  induction endpoints generalizing contents seen summary with
  | nil =>
      exact ⟨contents.endpoints, by simp [writeEndpoints], kept,
        (Store.Becomes.refl _).congr fun _ => rfl⟩
  | cons first rest ih =>
      rw [List.map_cons, List.nodup_cons] at nodup
      have ran := run_writeEndpoint supply kept run listed.endpoints first summary
        (announced first List.mem_cons_self)
      have middleKept := kept.upserted supply run.discovererId (newEndpoint first)
        (refreshedEndpoint first) first.id
      have becameMiddle := Store.becomes_upserted supply kept run.discovererId
        (keepsIdentity_refreshedEndpoint first) first.id
        (rfl : Entity.id (newEndpoint first) = first.id)
      generalize contents.endpoints.upserted supply run.discovererId (newEndpoint first)
        (refreshedEndpoint first) first.id = middle at ran middleKept becameMiddle
      have untouched : ∀ endpoint ∈ rest,
          middle.get? endpoint.id = contents.endpoints.get? endpoint.id := by
        intro endpoint member
        refine becameMiddle.kept (Intent.only_eq_none ?_ _ _)
        intro same
        exact nodup.1 (List.mem_map.mpr ⟨endpoint, member, same⟩)
      obtain ⟨after, ranRest, afterKept, becameAfter⟩ :=
        ih nodup.2 { contents with endpoints := middle } middleKept
          (fun endpoint member => (announced endpoint (List.mem_cons_of_mem first member)).congr
            (untouched endpoint member))
          { seen with endpoints := seen.endpoints ++ [first.id] }
          (summary.record (endpointVerdict run contents.endpoints first))
      have verdicts : rest.map (endpointVerdict run middle) =
          rest.map (endpointVerdict run contents.endpoints) :=
        List.map_congr_left fun endpoint member => by
          simp only [endpointVerdict, untouched endpoint member]
      refine ⟨after, ?_, afterKept, ?_⟩
      · simp only [writeEndpoints, Program.bind_eq, Program.run_bind, ran]
        rw [endpointVerdict] at ranRest
        rw [ranRest, verdicts]
        simp [endpointVerdict]
      · exact becameMiddle.each_cons becameAfter nodup.1

/-! ## Candidates -/

/-- Both stores of a registry are well kept. -/
structure Contents.WellKept (contents : Contents) : Prop where
  applications : contents.applications.WellKept
  endpoints : contents.endpoints.WellKept

/-- Of every candidate the discoverer was told whether it owns what is stored. -/
structure Announced (run : Run) (listed : Listed) (contents : Contents)
    (candidates : List Registration) : Prop where
  applications : ∀ candidate ∈ candidates, Announces contents.applications run.discovererId
    listed.applications candidate.application.applicationId
  endpoints : ∀ endpoint ∈ allEndpoints candidates, Announces contents.endpoints
    run.discovererId listed.endpoints endpoint.id

/-- The candidates that may be written. -/
def writable (run : Run) (before : Store Application) (candidates : List Registration) :
    List Registration :=
  candidates.filter (isWritable run before)

theorem writable_cons (run : Run) (before : Store Application) (first : Registration)
    (rest : List Registration) :
    writable run before (first :: rest) =
      writable run before [first] ++ writable run before rest :=
  List.filter_append [first] rest

theorem Announced.tail {run : Run} {listed : Listed} {contents : Contents} {first : Registration}
    {rest : List Registration} (announced : Announced run listed contents (first :: rest)) :
    Announced run listed contents rest where
  applications candidate member :=
    announced.applications candidate (List.mem_cons_of_mem first member)
  endpoints endpoint member := announced.endpoints endpoint (List.mem_append_right _ member)

theorem ids_allEndpoints_writable {run : Run} {before : Store Application}
    {candidates : List Registration} {id : String}
    (member : id ∈ (allEndpoints (writable run before candidates)).map Endpoint.id) :
    id ∈ (allEndpoints candidates).map Endpoint.id := by
  rcases List.mem_map.mp member with ⟨endpoint, inWritable, rfl⟩
  rcases List.mem_flatMap.mp inWritable with ⟨candidate, isWritable, inCandidate⟩
  apply List.mem_map_of_mem
  exact List.mem_flatMap.mpr ⟨candidate, (List.mem_filter.mp isWritable).1, inCandidate⟩

/-- What is stored under the ids of some candidates is as it was. -/
structure Untouched (candidates : List Registration) (before after : Contents) : Prop where
  applications : ∀ candidate ∈ candidates,
    after.applications.get? candidate.application.applicationId =
      before.applications.get? candidate.application.applicationId
  endpoints : ∀ endpoint ∈ allEndpoints candidates,
    after.endpoints.get? endpoint.id = before.endpoints.get? endpoint.id

namespace Untouched

variable {run : Run} {listed : Listed} {candidates : List Registration} {before after : Contents}

theorem announced (untouched : Untouched candidates before after)
    (announced : Announced run listed before candidates) :
    Announced run listed after candidates where
  applications candidate member :=
    (announced.applications candidate member).congr (untouched.applications candidate member)
  endpoints endpoint member :=
    (announced.endpoints endpoint member).congr (untouched.endpoints endpoint member)

theorem writable_eq (untouched : Untouched candidates before after) :
    writable run after.applications candidates = writable run before.applications candidates := by
  apply List.filter_congr
  intro candidate member
  simp only [isWritable, untouched.applications candidate member]

theorem verdicts_eq (untouched : Untouched candidates before after) :
    candidates.flatMap (candidateVerdicts run after) =
      candidates.flatMap (candidateVerdicts run before) := by
  apply List.flatMap_congr
  intro candidate member
  apply candidateVerdicts_congr (untouched.applications candidate member)
  intro endpoint inCandidate
  exact untouched.endpoints endpoint (List.mem_flatMap.mpr ⟨candidate, member, inCandidate⟩)

/-- What is written for one candidate is none of the others' concern. -/
theorem of_becomes {first : Registration}
    (becameApplications : before.applications.Becomes (applicationIntent run [first.application])
      after.applications)
    (becameEndpoints : before.endpoints.Becomes
      (endpointIntent run (allEndpoints (writable run before.applications [first])))
      after.endpoints)
    (freshApplication : first.application.applicationId ∉
      candidates.map (·.application.applicationId))
    (freshEndpoints :
      ∀ id ∈ (allEndpoints (writable run before.applications [first])).map Endpoint.id,
        id ∉ (allEndpoints candidates).map Endpoint.id) : Untouched candidates before after := by
  constructor
  · intro candidate member
    apply becameApplications.kept
    apply Intent.each_eq_none
    intro same
    apply freshApplication
    exact List.mem_map.mpr ⟨candidate, member, List.mem_singleton.mp same⟩
  · intro endpoint member
    apply becameEndpoints.kept
    apply Intent.each_eq_none
    intro again
    exact freshEndpoints _ again (List.mem_map_of_mem member)

end Untouched

/-- What a run has accounted for once the candidates are written. -/
def Seen.including (seen : Seen) (candidates : List Registration) : Seen where
  applications := seen.applications ++ candidates.map (·.application.applicationId)
  endpoints := seen.endpoints ++ (allEndpoints candidates).map Endpoint.id

theorem Seen.including_including (seen : Seen) (front back : List Registration) :
    (seen.including front).including back = seen.including (front ++ back) := by
  simp [including]

variable (supply) in
/-- The effect of writing the first candidate. -/
theorem run_writeCandidates_cons (run : Run) (listed : Listed) (first : Registration)
    (rest : List Registration) (nodup : (first.endpoints.map Endpoint.id).Nodup)
    {contents : Contents} (kept : contents.WellKept)
    (announced : Announced run listed contents (first :: rest)) (seen : Seen) (summary : Summary) :
    ∃ after : Contents,
      (writeCandidates run listed (first :: rest) seen summary).run (Contents.handler supply)
          contents =
        (writeCandidates run listed rest
          (seen.including (writable run contents.applications [first]))
          ((candidateVerdicts run contents first).foldl Summary.record summary)).run
            (Contents.handler supply) after ∧
      after.WellKept ∧
      contents.applications.Becomes (applicationIntent run [first.application])
        after.applications ∧
      contents.endpoints.Becomes
        (endpointIntent run (allEndpoints (writable run contents.applications [first])))
        after.endpoints := by
  have ran := run_writeApplication supply kept.applications run listed.applications
    first.application summary (announced.applications first List.mem_cons_self)
  have applicationsKept := kept.applications.upserted supply run.discovererId
    (newApplication run first.application) (refreshedApplication run first.application)
    first.application.applicationId
  have became := Store.becomes_upserted supply kept.applications run.discovererId
    (keepsIdentity_refreshedApplication run first.application) first.application.applicationId
    (rfl : Entity.id (newApplication run first.application) = _)
  generalize contents.applications.upserted supply run.discovererId
    (newApplication run first.application) (refreshedApplication run first.application)
    first.application.applicationId = applications at ran applicationsKept became
  have becameApplications : contents.applications.Becomes
      (applicationIntent run [first.application]) applications := by
    apply became.congr
    intro id
    by_cases same : first.application.applicationId = id
    · simp [applicationIntent, Intent.each, Intent.only, firstOf, Entity.id, same]
    · simp [applicationIntent, Intent.each, Intent.only, firstOf, Entity.id, same, Ne.symm same]
  by_cases open_ : isWritable run contents.applications first
  · obtain ⟨endpoints, ranEndpoints, endpointsKept, becameEndpoints⟩ :=
      run_writeEndpoints supply run listed first.endpoints nodup
        { contents with applications } kept.endpoints
        (fun endpoint member => announced.endpoints endpoint
          (List.mem_flatMap.mpr ⟨first, List.mem_cons_self, member⟩))
        { seen with applications := seen.applications ++ [first.application.applicationId] }
        (summary.record (applicationVerdict run contents.applications first.application))
    refine ⟨{ applications, endpoints }, ?_, ⟨applicationsKept, endpointsKept⟩,
      becameApplications, ?_⟩
    · have isOpen : Store.IsOpen run.discovererId
          (contents.applications.get? first.application.applicationId) = true := open_
      simp only [writeCandidates, Program.bind_eq, Program.run_bind, ran, isOpen, if_true]
      rw [applicationVerdict] at ranEndpoints
      simp [ranEndpoints, writable, candidateVerdicts, open_, Seen.including,
        applicationVerdict]
    · simpa [writable, open_] using becameEndpoints
  · refine ⟨{ contents with applications }, ?_, ⟨applicationsKept, kept.endpoints⟩,
      becameApplications, ?_⟩
    · have isClosed : Store.IsOpen run.discovererId
          (contents.applications.get? first.application.applicationId) = false := by
        simpa [isWritable] using open_
      simp only [writeCandidates, Program.bind_eq, Program.run_bind, ran, isClosed]
      simp [writable, candidateVerdicts, open_, Seen.including, applicationVerdict,
        foldl_skipped]
    · apply (Store.Becomes.refl _).congr
      intro id
      simp [writable, open_, endpointIntent, Intent.each, Intent.idle, firstOf]

variable (supply) in
/-- The effect of writing the candidates. -/
theorem run_writeCandidates (run : Run) (listed : Listed) (candidates : List Registration)
    (applicationsNodup : (candidates.map (·.application.applicationId)).Nodup)
    (endpointsNodup : ((allEndpoints candidates).map Endpoint.id).Nodup)
    {contents : Contents} (kept : contents.WellKept)
    (announced : Announced run listed contents candidates) (seen : Seen) (summary : Summary) :
    ∃ after : Contents,
      (writeCandidates run listed candidates seen summary).run (Contents.handler supply) contents =
        ((seen.including (writable run contents.applications candidates),
          (candidates.flatMap (candidateVerdicts run contents)).foldl Summary.record summary),
          after) ∧
      after.WellKept ∧
      contents.applications.Becomes
        (applicationIntent run (candidates.map Registration.application)) after.applications ∧
      contents.endpoints.Becomes
        (endpointIntent run (allEndpoints (writable run contents.applications candidates)))
        after.endpoints := by
  induction candidates generalizing contents seen summary with
  | nil =>
      refine ⟨contents, ?_, kept, (Store.Becomes.refl _).congr fun _ => rfl,
        (Store.Becomes.refl _).congr fun _ => rfl⟩
      simp [writeCandidates, writable, Seen.including]
  | cons first rest ih =>
      rw [List.map_cons, List.nodup_cons] at applicationsNodup
      rw [allEndpoints_cons, List.map_append] at endpointsNodup
      obtain ⟨firstNodup, restNodup, disjoint⟩ := List.nodup_append.mp endpointsNodup
      obtain ⟨middle, ran, middleKept, becameApplications, becameEndpoints⟩ :=
        run_writeCandidates_cons supply run listed first rest firstNodup kept announced
          seen summary
      have freshEndpoints : ∀ id ∈ (allEndpoints (writable run contents.applications [first])).map
          Endpoint.id, id ∉ (allEndpoints rest).map Endpoint.id := by
        intro id inFirst inRest
        have inAll := ids_allEndpoints_writable inFirst
        rw [allEndpoints, List.flatMap_singleton] at inAll
        exact disjoint id inAll id inRest rfl
      have untouched : Untouched rest contents middle :=
        .of_becomes becameApplications becameEndpoints applicationsNodup.1 freshEndpoints
      obtain ⟨after, ranRest, afterKept, becameRestApplications, becameRestEndpoints⟩ :=
        ih applicationsNodup.2 restNodup middleKept (untouched.announced announced.tail)
          (seen.including (writable run contents.applications [first]))
          ((candidateVerdicts run contents first).foldl Summary.record summary)
      rw [untouched.writable_eq] at ranRest becameRestEndpoints
      refine ⟨after, ?_, afterKept, ?_, ?_⟩
      · rw [ran, ranRest, untouched.verdicts_eq, Seen.including_including, ← writable_cons]
        simp
      · apply becameApplications.each_append becameRestApplications
        simpa [Entity.id] using applicationsNodup.1
      · rw [writable_cons, allEndpoints_append]
        apply becameEndpoints.each_append becameRestEndpoints
        intro id inFirst inRest
        exact freshEndpoints id inFirst (ids_allEndpoints_writable inRest)

/-! ## What was not seen -/

/-- The effect of making applications lost. -/
theorem run_loseApplications (run : Run) (now : Timestamp) {ids : List String}
    (nodup : ids.Nodup) {contents : Contents} (kept : contents.applications.WellKept)
    (summary : Summary) :
    (loseApplications run now ids summary).run (Contents.handler supply) contents =
      ({ summary with
          lost := summary.lost + contents.applications.affected (lostApplication run now) ids },
        { contents with
          applications :=
            contents.applications.revisedAll supply (lostApplication run now) ids }) := by
  have keeps := keepsIdentity_lostApplication run now
  induction ids generalizing contents summary with
  | nil => rfl
  | cons first rest ih =>
      rw [List.nodup_cons] at nodup
      simp only [loseApplications, Program.bind_eq, Program.run_bind, run_onApplications,
        Store.run_revise kept first run.attempts keeps, countLost_revised]
      rw [ih nodup.2 (kept.revised first _),
        Store.affected_cons supply kept keeps nodup.1]
      simp [Store.revisedAll, Nat.add_assoc]

/-- The effect of making endpoints lost. -/
theorem run_loseEndpoints (run : Run) (now : Timestamp) {ids : List String}
    (nodup : ids.Nodup) {contents : Contents} (kept : contents.endpoints.WellKept)
    (summary : Summary) :
    (loseEndpoints run now ids summary).run (Contents.handler supply) contents =
      ({ summary with
          lost := summary.lost + contents.endpoints.affected (lostEndpoint now) ids },
        { contents with
          endpoints := contents.endpoints.revisedAll supply (lostEndpoint now) ids }) := by
  have keeps := keepsIdentity_lostEndpoint now
  induction ids generalizing contents summary with
  | nil => rfl
  | cons first rest ih =>
      rw [List.nodup_cons] at nodup
      simp only [loseEndpoints, Program.bind_eq, Program.run_bind, run_onEndpoints,
        Store.run_revise kept first run.attempts keeps, countLost_revised]
      rw [ih nodup.2 (kept.revised first _),
        Store.affected_cons supply kept keeps nodup.1]
      simp [Store.revisedAll, Nat.add_assoc]

end FieldSurvey.Registry
