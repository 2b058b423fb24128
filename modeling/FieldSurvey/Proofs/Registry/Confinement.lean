import FieldSurvey.Proofs.Program.Monitor
import FieldSurvey.Proofs.Registry.Ownership

/-!
# What a discoverer looks at

A reconciliation looks up what was listed for its discoverer, and nothing else, and it adds
entities under ids only that are derived from its batch.  What was listed stays the discoverer's
own as long as everybody lets everything last.  So whatever others make of the rest of the
registry is hidden from a reconciliation, unless they add something under those ids.
-/

namespace FieldSurvey.Registry

open Model (Application Endpoint Registration ResultRecord)
open Time (Timestamp)

/-! ## Calls that are known beforehand -/

/-- Whether a call of a store is about ids that were listed, or adds something under a derived
id. -/
def StoreCall.KeepsTo {α : Type} [Entity α] (listed derived : List String) : StoreCall α → Prop
  | .get id => id ∈ listed
  | .add entity => Entity.id entity ∈ derived
  | .update _ => True
  | .listBy _ | .list => False

/-- The ids of the applications of sightings. -/
def derivedApplicationIds (seen : List (Application × Endpoint)) : List String :=
  seen.map fun sighting => sighting.1.applicationId

/-- The ids of the endpoints of sightings. -/
def derivedEndpointIds (seen : List (Application × Endpoint)) : List String :=
  seen.map fun sighting => sighting.2.id

/-- The calls of a reconciliation that has seen something, once its listings are answered. -/
def Listed.Allows (listed : Listed) (seen : List (Application × Endpoint)) : Call → Prop
  | .application request => request.KeepsTo listed.applications (derivedApplicationIds seen)
  | .endpoint request => request.KeepsTo listed.endpoints (derivedEndpointIds seen)

theorem only_attempt {α : Type} [Entity α] {listed derived : List String} {id : String}
    (isListed : id ∈ listed) (limit : Nat) (change : Nat → α → Option α) (applied : Nat)
    (changed : Bool) (attempts : Nat) :
    (Revision.attempt id limit change applied changed attempts).Only
      (StoreCall.KeepsTo listed derived) := by
  induction attempts generalizing applied changed with
  | zero => exact Program.only_done _
  | succ attempts ih =>
      refine Program.only_call isListed fun reply => ?_
      split
      · exact Program.only_done _
      · exact Program.only_done _
      · split
        · exact Program.only_done _
        · refine Program.only_call trivial fun reply => ?_
          split
          · exact Program.only_done _
          · split
            · exact ih _ _
            · exact Program.only_done _

section Passes

variable {run : Run} {listed : Listed} {seen : List (Application × Endpoint)}

theorem only_reviseApplication {id : String} (isListed : id ∈ listed.applications)
    (attempts : Nat) (change : Application → Option Application) :
    (onApplications (Revision.revise id attempts change)).Only (listed.Allows seen) :=
  (only_attempt isListed _ _ _ _ _).translate fun _ isAllowed => Program.only_ask isAllowed

theorem only_reviseEndpoint {id : String} (isListed : id ∈ listed.endpoints)
    (attempts : Nat) (change : Endpoint → Option Endpoint) :
    (onEndpoints (Revision.revise id attempts change)).Only (listed.Allows seen) :=
  (only_attempt isListed _ _ _ _ _).translate fun _ isAllowed => Program.only_ask isAllowed

theorem only_addApplication {application : Application}
    (isDerived : application.applicationId ∈ derivedApplicationIds seen) (summary : Summary) :
    (addApplication run application summary).Only (listed.Allows seen) := by
  apply Program.Only.bind
  · exact Program.only_ask (S := Calls) isDerived
  · intro reply
    split <;> exact Program.only_done _

theorem only_addEndpoint {endpoint : Endpoint} (isDerived : endpoint.id ∈ derivedEndpointIds seen)
    (summary : Summary) : (addEndpoint endpoint summary).Only (listed.Allows seen) := by
  apply Program.Only.bind
  · exact Program.only_ask (S := Calls) isDerived
  · intro reply
    split <;> exact Program.only_done _

theorem only_writeApplication {application : Application}
    (isDerived : application.applicationId ∈ derivedApplicationIds seen) (summary : Summary) :
    (writeApplication run (listed.applications.contains application.applicationId) application
      summary).Only (listed.Allows seen) := by
  cases isListed : listed.applications.contains application.applicationId with
  | false => exact only_addApplication isDerived summary
  | true =>
      apply (only_reviseApplication (List.contains_iff_mem.mp isListed) _ _).bind
      intro revision
      split
      · split <;> exact Program.only_done _
      · exact only_addApplication isDerived summary
      · exact Program.only_done _

theorem only_writeEndpoint {endpoint : Endpoint}
    (isDerived : endpoint.id ∈ derivedEndpointIds seen) (summary : Summary) :
    (writeEndpoint run (listed.endpoints.contains endpoint.id) endpoint summary).Only
      (listed.Allows seen) := by
  cases isListed : listed.endpoints.contains endpoint.id with
  | false => exact only_addEndpoint isDerived summary
  | true =>
      apply (only_reviseEndpoint (List.contains_iff_mem.mp isListed) _ _).bind
      intro revision
      split
      · split <;> exact Program.only_done _
      · exact only_addEndpoint isDerived summary
      · exact Program.only_done _

theorem only_writeEndpoints {endpoints : List Endpoint}
    (areDerived : ∀ endpoint ∈ endpoints, endpoint.id ∈ derivedEndpointIds seen) (accounted : Seen)
    (summary : Summary) :
    (writeEndpoints run listed endpoints accounted summary).Only (listed.Allows seen) := by
  induction endpoints generalizing accounted summary with
  | nil => exact Program.only_done _
  | cons first rest ih =>
      apply (only_writeEndpoint (areDerived first List.mem_cons_self) summary).bind
      intro counted
      exact ih (fun endpoint member => areDerived endpoint (List.mem_cons_of_mem first member)) _ _

theorem only_writeCandidates {candidates : List Registration}
    (applications : ∀ candidate ∈ candidates,
      candidate.application.applicationId ∈ derivedApplicationIds seen)
    (endpoints : ∀ endpoint ∈ allEndpoints candidates, endpoint.id ∈ derivedEndpointIds seen)
    (accounted : Seen) (summary : Summary) :
    (writeCandidates run listed candidates accounted summary).Only (listed.Allows seen) := by
  induction candidates generalizing accounted summary with
  | nil => exact Program.only_done _
  | cons first rest ih =>
      have others := ih
        (fun candidate member => applications candidate (List.mem_cons_of_mem first member))
        (fun endpoint member => endpoints endpoint (List.mem_append_right _ member))
      apply (only_writeApplication (applications first List.mem_cons_self) summary).bind
      rintro ⟨outcome, counted⟩
      dsimp only
      split
      · exact others _ _
      · split
        · exact others _ _
        · apply Program.Only.bind
          · apply only_writeEndpoints
            intro endpoint member
            exact endpoints endpoint (List.mem_append_left _ member)
          · intro written
            exact others _ _

theorem only_loseApplications (now : Timestamp) {ids : List String}
    (areListed : ∀ id ∈ ids, id ∈ listed.applications) (summary : Summary) :
    (loseApplications run now ids summary).Only (listed.Allows seen) := by
  induction ids generalizing summary with
  | nil => exact Program.only_done _
  | cons first rest ih =>
      apply (only_reviseApplication (areListed first List.mem_cons_self) _ _).bind
      intro revision
      exact ih (fun id member => areListed id (List.mem_cons_of_mem first member)) _

theorem only_loseEndpoints (now : Timestamp) {ids : List String}
    (areListed : ∀ id ∈ ids, id ∈ listed.endpoints) (summary : Summary) :
    (loseEndpoints run now ids summary).Only (listed.Allows seen) := by
  induction ids generalizing summary with
  | nil => exact Program.only_done _
  | cons first rest ih =>
      apply (only_reviseEndpoint (areListed first List.mem_cons_self) _ _).bind
      intro revision
      exact ih (fun id member => areListed id (List.mem_cons_of_mem first member)) _

variable (run listed) in
/-- Once its listings are answered a reconciliation keeps to what is listed and derived. -/
theorem only_reconcileListed (now : Timestamp) (results : List ResultRecord) :
    (reconcileListed run now results listed).Only
      (listed.Allows (sightings run.discovererId results)) := by
  apply Program.Only.bind
  · apply only_writeCandidates
    · intro candidate member
      obtain ⟨sighting, inBatch, same⟩ := exists_sighting_of_candidate member
      exact List.mem_map.mpr ⟨sighting, inBatch, congrArg Application.applicationId same⟩
    · intro endpoint member
      obtain ⟨sighting, inBatch, same⟩ := mem_allEndpoints_grouped member
      exact List.mem_map.mpr ⟨sighting, inBatch, congrArg Endpoint.id same⟩
  · rintro ⟨accounted, summary⟩
    apply Program.Only.bind
    · exact only_loseApplications now (fun id member => (mem_missing.mp member).1) _
    · intro summary
      apply Program.Only.bind
      · exact only_loseEndpoints now (fun id member => (mem_missing.mp member).1) _
      · intro summary
        exact Program.only_done _

end Passes

/-! ## Discoverers that keep to what is their own -/

/-- The calls by which a discoverer neither sees nor writes anything but what is its own, and
adds something under derived ids only. -/
def Store.Confines {α : Type} [Entity α] [NaturedEntity α] (discovererId : String)
    (derived : List String) (store : Store α) : StoreCall α → Prop
  | .get id => Store.IsOwned discovererId (store.get? id)
  | .add entity => Entity.discovererId entity = some discovererId ∧ Entity.id entity ∈ derived
  | .update entity => store.Permits discovererId (.update entity)
  | .listBy other => other = discovererId
  | .list => False

theorem Store.Permits.confines {α : Type} [Entity α] [NaturedEntity α] {store : Store α}
    {discovererId : String} {listed derived : List String} {request : StoreCall α}
    (permitted : store.Permits discovererId request) (keepsTo : request.KeepsTo listed derived)
    (owned : ∀ id ∈ listed, Store.IsOwned discovererId (store.get? id)) :
    store.Confines discovererId derived request := by
  cases request with
  | get id => exact owned id keepsTo
  | add entity => exact ⟨permitted, keepsTo⟩
  | update entity => exact permitted
  | listBy other => exact keepsTo.elim
  | list => exact keepsTo.elim

theorem Store.Confines.permits {α : Type} [Entity α] [NaturedEntity α] {store : Store α}
    {discovererId : String} {derived : List String} {request : StoreCall α}
    (confined : store.Confines discovererId derived request) :
    store.Permits discovererId request := by
  cases request with
  | get id => trivial
  | add entity => exact confined.1
  | update entity => exact confined
  | listBy other => trivial
  | list => trivial

/-- The calls of the registry by which a discoverer that has seen something keeps to what is its
own. -/
def Contents.Confines (discovererId : String) (seen : List (Application × Endpoint))
    (contents : Contents) : Call → Prop
  | .application request =>
    contents.applications.Confines discovererId (derivedApplicationIds seen) request
  | .endpoint request => contents.endpoints.Confines discovererId (derivedEndpointIds seen) request

theorem Contents.Permits.confines {contents : Contents} {discovererId : String} {listed : Listed}
    {seen : List (Application × Endpoint)} {request : Call}
    (permitted : contents.Permits discovererId request) (allowed : listed.Allows seen request)
    (owned : listed.Owned discovererId contents) : contents.Confines discovererId seen request := by
  cases request with
  | application request => exact Store.Permits.confines permitted allowed owned.applications
  | endpoint request => exact Store.Permits.confines permitted allowed owned.endpoints

theorem Contents.Confines.permits {contents : Contents} {discovererId : String}
    {seen : List (Application × Endpoint)} {request : Call}
    (confined : contents.Confines discovererId seen request) :
    contents.Permits discovererId request := by
  cases request with
  | application request => exact Store.Confines.permits confined
  | endpoint request => exact Store.Confines.permits confined

theorem Listed.Owned.persists {listed : Listed} {discovererId : String} {before after : Contents}
    (owned : listed.Owned discovererId before) (persists : before.Persists after) :
    listed.Owned discovererId after where
  applications id member := persists.applications.isOwned (owned.applications id member)
  endpoints id member := persists.endpoints.isOwned (owned.endpoints id member)

variable {supply : Nat → String} {discovererId : String} {seen : List (Application × Endpoint)}
  {contents : Contents}

/-- The setting of a discoverer that shares the registry with others, and keeps to what is its
own. -/
def confined (supply : Nat → String) (discovererId : String)
    (seen : List (Application × Endpoint)) : Setting Calls Contents :=
  Setting.among Contents.Persists
    { permits := Contents.Confines discovererId seen
      answers := fun contents request reply after =>
        ∃ fault?, Contents.answer supply fault? request contents = (reply, after) }

/-- Who writes nothing but what is its own, and keeps to what it owns, is confined. -/
theorem ensures_confined {β : Type} {program : Program Calls β} {listed : Listed}
    (ensures : program.Ensures (shared supply discovererId) (fun _ _ => True) contents)
    (only : program.Only (listed.Allows seen)) (owned : listed.Owned discovererId contents) :
    program.Ensures (confined supply discovererId seen) (fun _ _ => True) contents := by
  induction program generalizing contents with
  | done value => trivial
  | call request next ih =>
      obtain ⟨permitted, rest⟩ := ensures
      refine ⟨fun later changed => ?_, fun reply after answered => ?_⟩
      · exact (permitted later changed).confines only.1 (owned.persists changed)
      · obtain ⟨later, fault?, changed, last, -⟩ := persists_of_answered permitted answered
        exact ih reply (rest reply after answered) (only.2 reply)
          (owned.persists (changed.trans last))

/-- A reconciliation keeps to what is its discoverer's own. -/
theorem ensures_confined_reconcile (supply : Nat → String) (errand : Errand)
    (contents : Contents) :
    errand.program.Ensures (confined supply errand.run.discovererId errand.seen) (fun _ _ => True)
      contents := by
  have ensures := ensures_reconcile supply errand.run errand.now errand.results contents
  unfold Errand.program
  rw [reconcile_eq] at ensures ⊢
  refine ⟨fun _ _ => rfl, fun reply middle firstAnswer => ?_⟩
  cases reply with
  | error fault => trivial
  | ok applications =>
      refine ⟨fun _ _ => rfl, fun reply start secondAnswer => ?_⟩
      cases reply with
      | error fault => trivial
      | ok endpoints =>
          have rest := (ensures.2 _ _ firstAnswer).2 _ _ secondAnswer
          exact ensures_confined rest (only_reconcileListed errand.run _ errand.now errand.results)
            (owned_of_listings firstAnswer secondAnswer).2

end FieldSurvey.Registry
