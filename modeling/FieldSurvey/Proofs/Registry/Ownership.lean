import FieldSurvey.Proofs.Program.Ensures
import FieldSurvey.Proofs.Registry.Persistence
import FieldSurvey.Proofs.Registry.Reconciliation

/-!
# What a discoverer writes

A reconciliation adds what is its discoverer's own, and updates what its discoverer owns in
its nature only.  It does so whatever others make of the registry meanwhile, as long as they
let everything last, and however its calls fail.  That the owned entities are listed once, at
the beginning, is enough: nothing that is stored changes its owner or goes away.
-/

namespace FieldSurvey.Registry

open Model (Application Endpoint Registration ResultRecord)
open Time (Timestamp)

/-! ## Calls that a discoverer may make -/

/-- The calls by which a discoverer writes nothing but what is its own. -/
def Store.Permits {α : Type} [Entity α] [NaturedEntity α] (discovererId : String)
    (store : Store α) : StoreCall α → Prop
  | .add entity => Entity.discovererId entity = some discovererId
  | .update entity => ∃ former, store.get? (Entity.id entity) = some former ∧
      Entity.discovererId former = some discovererId ∧ nature entity = nature former
  | _ => True

theorem Store.Permits.persists {α : Type} [Entity α] [NaturedEntity α] {store : Store α}
    {discovererId : String} {request : StoreCall α} (permitted : store.Permits discovererId request)
    (supply : Nat → String) (fault? : Option Fault) :
    store.Persists (answer supply fault? request store).2 := by
  apply persists_answer
  rintro entity former rfl present
  obtain ⟨stored, stands, -, same⟩ := permitted
  rw [present] at stands
  exact Option.some.inj stands ▸ same

/-- The calls of the registry by which a discoverer writes nothing but what is its own. -/
def Contents.Permits (discovererId : String) (contents : Contents) : Call → Prop
  | .application request => contents.applications.Permits discovererId request
  | .endpoint request => contents.endpoints.Permits discovererId request

theorem Contents.WellKept.answer {contents : Contents} (kept : contents.WellKept)
    (supply : Nat → String) (fault? : Option Fault) (request : Call) :
    (Contents.answer supply fault? request contents).2.WellKept := by
  cases request with
  | application request => exact ⟨kept.applications.answer fault? request, kept.endpoints⟩
  | endpoint request => exact ⟨kept.applications, kept.endpoints.answer fault? request⟩

/-- Whoever writes nothing but what is its own lets everything last. -/
theorem Contents.Permits.persists {contents : Contents} {discovererId : String} {request : Call}
    (permitted : contents.Permits discovererId request) (kept : contents.WellKept)
    (supply : Nat → String) (fault? : Option Fault) :
    contents.Persists (Contents.answer supply fault? request contents).2 := by
  have wellKept := kept.answer supply fault? request
  cases request with
  | application request =>
      exact ⟨wellKept, Store.Permits.persists permitted supply fault?, .refl _⟩
  | endpoint request =>
      exact ⟨wellKept, .refl _, Store.Permits.persists permitted supply fault?⟩

variable {supply : Nat → String} {discovererId : String} {start contents : Contents}

/-- The setting of a discoverer that shares the registry with others, all of whom let
everything last. -/
def shared (supply : Nat → String) (discovererId : String) : Setting Calls Contents :=
  Setting.among Contents.Persists
    { permits := Contents.Permits discovererId
      answers := fun contents request reply after =>
        ∃ fault?, Contents.answer supply fault? request contents = (reply, after) }

theorem persists_of_answered {request : Call} {reply : Call.Reply request} {after : Contents}
    (permitted : (shared supply discovererId).permits contents request)
    (answered : (shared supply discovererId).answers contents request reply after) :
    ∃ later fault?, contents.Persists later ∧ later.Persists after ∧
      Contents.answer supply fault? request later = (reply, after) := by
  obtain ⟨later, changed, fault?, answer⟩ := answered
  have mayAsk : later.Permits discovererId request := permitted later changed
  have stayed := mayAsk.persists changed.wellKept supply fault?
  rw [answer] at stayed
  exact ⟨later, fault?, changed, stayed, answer⟩

/-! ## Programs that write nothing but what is their discoverer's -/

/-- Whether a program, from wherever a registry has come to, makes only calls by which a
discoverer writes what is its own. -/
def Behaves {β : Type} (supply : Nat → String) (discovererId : String) (start : Contents)
    (program : Program Calls β) : Prop :=
  ∀ contents, start.Persists contents →
    program.Ensures (shared supply discovererId) (fun _ reached => start.Persists reached) contents

namespace Behaves

variable {β γ : Type}

theorem done (value : β) : Behaves supply discovererId start (.done value) :=
  fun _ changed => changed

theorem bind {program : Program Calls β} {next : β → Program Calls γ}
    (first : Behaves supply discovererId start program)
    (second : ∀ value, Behaves supply discovererId start (next value)) :
    Behaves supply discovererId start (program.bind next) :=
  fun contents changed => (first contents changed).bind fun value reached => second value reached

theorem ask {request : Call}
    (permitted : ∀ contents, start.Persists contents → contents.Permits discovererId request) :
    Behaves supply discovererId start (Program.ask (S := Calls) request) := by
  intro contents changed
  have mayAsk : (shared supply discovererId).permits contents request :=
    fun later more => permitted later (changed.trans more)
  refine ⟨mayAsk, fun reply after answered => ?_⟩
  obtain ⟨later, fault?, more, last, -⟩ := persists_of_answered mayAsk answered
  exact changed.trans (more.trans last)

end Behaves

/-! ## Revisions -/

/-- A revision ensures whatever its calls preserve, if it may read what it revises and write
what its change makes of what it has read. -/
theorem ensures_attempt {α σ : Type} [Entity α] {setting : Setting (StoreSignature α) σ}
    {holds : σ → Prop} {id : String} {change : Nat → α → Option α}
    (reading : ∀ {state}, holds state → setting.permits state (.get id))
    (kept : ∀ {state request reply after}, holds state → setting.permits state request →
      setting.answers state request reply after → holds after)
    (writing : ∀ {state current after applied entity}, holds state →
      setting.answers state (.get id) (.ok (some current)) after →
      change applied current = some entity → setting.permits after (.update entity))
    (limit applied : Nat) (changed : Bool) (attempts : Nat) {state : σ} (initially : holds state) :
    (Revision.attempt id limit change applied changed attempts).Ensures setting
      (fun _ reached => holds reached) state := by
  induction attempts generalizing state applied changed with
  | zero => exact initially
  | succ attempts ih =>
      refine ⟨reading initially, fun reply after read => ?_⟩
      have still := kept initially (reading initially) read
      cases reply with
      | error fault => exact still
      | ok found =>
          cases found with
          | none => exact still
          | some current =>
              simp only
              cases change : change applied current with
              | none => exact still
              | some entity =>
                  have mayWrite := writing initially read change
                  refine ⟨mayWrite, fun answer reached wrote => ?_⟩
                  have finally_ := kept still mayWrite wrote
                  cases answer with
                  | ok written => exact finally_
                  | error fault =>
                      by_cases again : fault.isRetryable = true
                      · simp only [again, if_true]
                        exact ih (applied + 1) true finally_
                      · simp only [again]
                        exact finally_

/-- The calls of one store of the registry, in the setting of a discoverer. -/
structure Exposes {α : Type} [Entity α] [NaturedEntity α] (supply : Nat → String)
    (discovererId : String) (view : Contents → Store α)
    (setting : Setting (StoreSignature α) Contents) : Prop where
  persists : ∀ {before after}, before.Persists after → (view before).Persists (view after)
  wellKept : ∀ {contents : Contents}, contents.WellKept → (view contents).WellKept
  permits : ∀ {contents request}, (∀ later, contents.Persists later →
    (view later).Permits discovererId request) → setting.permits contents request
  answered : ∀ {contents request reply after}, setting.permits contents request →
    setting.answers contents request reply after → ∃ later fault?, contents.Persists later ∧
      later.Persists after ∧ Store.answer supply fault? request (view later) = (reply, view after)

/-- A discoverer revises what it owns, by a change that leaves its nature alone. -/
theorem Exposes.revise {α : Type} [Entity α] [NaturedEntity α] {view : Contents → Store α}
    {setting : Setting (StoreSignature α) Contents}
    (exposes : Exposes supply discovererId view setting) {id : String}
    (owned : Store.IsOwned discovererId ((view start).get? id)) {change : α → Option α}
    (keeps : KeepsNature change) (attempts : Nat) (changed : start.Persists contents) :
    (Revision.revise id attempts change).Ensures setting (fun _ reached => start.Persists reached)
      contents := by
  have mayRead : ∀ state, setting.permits state (.get id) :=
    fun state => exposes.permits fun later more => trivial
  refine ensures_attempt ?_ ?_ ?_ _ _ _ _ changed
  · intro state still
    exact mayRead state
  · intro state request reply after still permitted answered
    obtain ⟨later, fault?, more, last, -⟩ := exposes.answered permitted answered
    exact still.trans (more.trans last)
  · intro state current after _ entity still read difference
    obtain ⟨later, fault?, more, last, answer⟩ :=
      exposes.answered (mayRead state) read
    have present : (view later).get? id = some current :=
      Store.get?_of_answer_get (congrArg Prod.fst answer)
    have isOwned := (exposes.persists (still.trans more)).isOwned owned
    have sameId : Entity.id entity = id :=
      (NaturedEntity.id_of_nature (keeps difference)).trans
        ((exposes.wellKept more.wellKept).id_of_get? present)
    apply exposes.permits
    intro end_ onward
    obtain ⟨stored, stands, same⟩ := exposes.persists (last.trans onward) id current present
    refine ⟨stored, sameId ▸ stands, ?_, (keeps difference).trans same.symm⟩
    rw [NaturedEntity.discovererId_of_nature same]
    simpa [present] using isOwned

theorem behaves_reviseApplication {id : String}
    (owned : Store.IsOwned discovererId (start.applications.get? id))
    {change : Application → Option Application} (keeps : KeepsNature change) (attempts : Nat) :
    Behaves supply discovererId start (onApplications (Revision.revise id attempts change)) := by
  intro contents changed
  let calls : Setting (StoreSignature Application) Contents :=
    { permits := fun contents request =>
        (shared supply discovererId).permits contents (.application request)
      answers := fun contents request =>
        (shared supply discovererId).answers contents (.application request) }
  have exposes : Exposes supply discovererId Contents.applications calls :=
    { persists := Contents.Persists.applications
      wellKept := Contents.WellKept.applications
      permits := fun permitted => permitted
      answered := by
        intro contents request reply after permitted answered
        obtain ⟨later, fault?, more, last, answer⟩ := persists_of_answered permitted answered
        cases answer
        exact ⟨later, fault?, more, last, rfl⟩ }
  apply (exposes.revise owned keeps attempts changed).translate
  intro request state permitted
  exact ⟨permitted, fun reply after answered => answered⟩

theorem behaves_reviseEndpoint {id : String}
    (owned : Store.IsOwned discovererId (start.endpoints.get? id))
    {change : Endpoint → Option Endpoint} (keeps : KeepsNature change) (attempts : Nat) :
    Behaves supply discovererId start (onEndpoints (Revision.revise id attempts change)) := by
  intro contents changed
  let calls : Setting (StoreSignature Endpoint) Contents :=
    { permits := fun contents request =>
        (shared supply discovererId).permits contents (.endpoint request)
      answers := fun contents request =>
        (shared supply discovererId).answers contents (.endpoint request) }
  have exposes : Exposes supply discovererId Contents.endpoints calls :=
    { persists := Contents.Persists.endpoints
      wellKept := Contents.WellKept.endpoints
      permits := fun permitted => permitted
      answered := by
        intro contents request reply after permitted answered
        obtain ⟨later, fault?, more, last, answer⟩ := persists_of_answered permitted answered
        cases answer
        exact ⟨later, fault?, more, last, rfl⟩ }
  apply (exposes.revise owned keeps attempts changed).translate
  intro request state permitted
  exact ⟨permitted, fun reply after answered => answered⟩

/-! ## The passes of a reconciliation -/

section Passes

variable {run : Run}

theorem behaves_addApplication {seen : Application}
    (own : seen.discovererId = some run.discovererId) (summary : Summary) :
    Behaves supply run.discovererId start (addApplication run seen summary) := by
  apply Behaves.bind
  · exact .ask fun contents changed => own
  · intro reply
    split <;> exact .done _

theorem behaves_addEndpoint {seen : Endpoint}
    (own : seen.discovererId = some run.discovererId) (summary : Summary) :
    Behaves supply run.discovererId start (addEndpoint seen summary) := by
  apply Behaves.bind
  · exact .ask fun contents changed => own
  · intro reply
    split <;> exact .done _

theorem behaves_writeApplication {seen : Application} {listed : Bool}
    (own : seen.discovererId = some run.discovererId)
    (owned : listed → Store.IsOwned run.discovererId (start.applications.get? seen.applicationId))
    (summary : Summary) :
    Behaves supply run.discovererId start (writeApplication run listed seen summary) := by
  cases listed with
  | false => exact behaves_addApplication own summary
  | true =>
      apply (behaves_reviseApplication (owned rfl) (keepsNature_refreshedApplication run seen)
        run.attempts).bind
      intro revision
      split
      · split <;> exact .done _
      · exact behaves_addApplication own summary
      · exact .done _

theorem behaves_writeEndpoint {seen : Endpoint} {listed : Bool}
    (own : seen.discovererId = some run.discovererId)
    (owned : listed → Store.IsOwned run.discovererId (start.endpoints.get? seen.id))
    (summary : Summary) :
    Behaves supply run.discovererId start (writeEndpoint run listed seen summary) := by
  cases listed with
  | false => exact behaves_addEndpoint own summary
  | true =>
      apply (behaves_reviseEndpoint (owned rfl) (keepsNature_refreshedEndpoint seen)
        run.attempts).bind
      intro revision
      split
      · split <;> exact .done _
      · exact behaves_addEndpoint own summary
      · exact .done _

/-- Whether a discoverer owns everything that was listed for it. -/
structure Listed.Owned (listed : Listed) (discovererId : String) (contents : Contents) : Prop where
  applications : ∀ id ∈ listed.applications,
    Store.IsOwned discovererId (contents.applications.get? id)
  endpoints : ∀ id ∈ listed.endpoints, Store.IsOwned discovererId (contents.endpoints.get? id)

variable {listed : Listed}

theorem behaves_writeEndpoints (owned : listed.Owned run.discovererId start)
    {endpoints : List Endpoint}
    (own : ∀ endpoint ∈ endpoints, endpoint.discovererId = some run.discovererId)
    (seen : Seen) (summary : Summary) :
    Behaves supply run.discovererId start (writeEndpoints run listed endpoints seen summary) := by
  induction endpoints generalizing seen summary with
  | nil => exact .done _
  | cons first rest ih =>
      apply Behaves.bind
      · apply behaves_writeEndpoint (own first List.mem_cons_self)
        intro isListed
        exact owned.endpoints first.id (List.contains_iff_mem.mp isListed)
      · intro counted
        exact ih (fun endpoint member => own endpoint (List.mem_cons_of_mem first member)) _ _

theorem behaves_writeCandidates (owned : listed.Owned run.discovererId start)
    {candidates : List Registration}
    (ownApplications : ∀ candidate ∈ candidates,
      candidate.application.discovererId = some run.discovererId)
    (ownEndpoints : ∀ endpoint ∈ allEndpoints candidates,
      endpoint.discovererId = some run.discovererId)
    (seen : Seen) (summary : Summary) :
    Behaves supply run.discovererId start
      (writeCandidates run listed candidates seen summary) := by
  induction candidates generalizing seen summary with
  | nil => exact .done _
  | cons first rest ih =>
      have others := ih
        (fun candidate member => ownApplications candidate (List.mem_cons_of_mem first member))
        (fun endpoint member => ownEndpoints endpoint (List.mem_append_right _ member))
      apply Behaves.bind
      · apply behaves_writeApplication (ownApplications first List.mem_cons_self)
        intro isListed
        exact owned.applications _ (List.contains_iff_mem.mp isListed)
      · rintro ⟨outcome, counted⟩
        simp only
        split
        · exact others _ _
        · split
          · exact others _ _
          · apply Behaves.bind
            · apply behaves_writeEndpoints owned
              intro endpoint member
              exact ownEndpoints endpoint (List.mem_append_left _ member)
            · intro written
              exact others _ _

theorem behaves_loseApplications (now : Timestamp) {ids : List String}
    (owned : ∀ id ∈ ids, Store.IsOwned run.discovererId (start.applications.get? id))
    (summary : Summary) :
    Behaves supply run.discovererId start (loseApplications run now ids summary) := by
  induction ids generalizing summary with
  | nil => exact .done _
  | cons first rest ih =>
      apply (behaves_reviseApplication (owned first List.mem_cons_self)
        (keepsNature_lostApplication run now) run.attempts).bind
      intro revision
      exact ih (fun id member => owned id (List.mem_cons_of_mem first member)) _

theorem behaves_loseEndpoints (now : Timestamp) {ids : List String}
    (owned : ∀ id ∈ ids, Store.IsOwned run.discovererId (start.endpoints.get? id))
    (summary : Summary) :
    Behaves supply run.discovererId start (loseEndpoints run now ids summary) := by
  induction ids generalizing summary with
  | nil => exact .done _
  | cons first rest ih =>
      apply (behaves_reviseEndpoint (owned first List.mem_cons_self)
        (keepsNature_lostEndpoint now) run.attempts).bind
      intro revision
      exact ih (fun id member => owned id (List.mem_cons_of_mem first member)) _

end Passes

/-! ## A whole reconciliation -/

/-- Once its listings are answered a reconciliation goes by them. -/
theorem behaves_reconcileListed {run : Run} {listed : Listed}
    (owned : listed.Owned run.discovererId start) (now : Timestamp) (results : List ResultRecord) :
    Behaves supply run.discovererId start (reconcileListed run now results listed) := by
  apply Behaves.bind
  · apply behaves_writeCandidates owned
    · intro candidate member
      obtain ⟨sighting, inBatch, same⟩ := exists_sighting_of_candidate member
      exact same ▸ (discovererId_of_mem_sightings inBatch).1
    · intro endpoint member
      obtain ⟨sighting, inBatch, same⟩ := mem_allEndpoints_grouped member
      exact same ▸ (discovererId_of_mem_sightings inBatch).2
  · rintro ⟨seen, summary⟩
    apply Behaves.bind
    · apply behaves_loseApplications
      intro id member
      exact owned.applications id (mem_missing.mp member).1
    · intro summary
      apply Behaves.bind
      · apply behaves_loseEndpoints
        intro id member
        exact owned.endpoints id (mem_missing.mp member).1
      · intro summary
        exact .done _

theorem permits_listApplications :
    (shared supply discovererId).permits contents (.application (.listBy discovererId)) :=
  fun _ _ => trivial

theorem permits_listEndpoints :
    (shared supply discovererId).permits contents (.endpoint (.listBy discovererId)) :=
  fun _ _ => trivial

/-- What is listed for a discoverer is still its own when it goes on, whatever the others do. -/
theorem owned_of_listings {middle : Contents} {applications : List Application}
    {endpoints : List Endpoint}
    (first : (shared supply discovererId).answers contents (.application (.listBy discovererId))
      (.ok applications) middle)
    (second : (shared supply discovererId).answers middle (.endpoint (.listBy discovererId))
      (.ok endpoints) start) :
    start.WellKept ∧
      ({ applications := applications.map Application.applicationId
         endpoints := endpoints.map Endpoint.id } : Listed).Owned discovererId start := by
  obtain ⟨atFirst, firstFault?, before, firstLast, firstListing⟩ :=
    persists_of_answered permits_listApplications first
  obtain ⟨atSecond, secondFault?, between, secondLast, secondListing⟩ :=
    persists_of_answered permits_listEndpoints second
  have onward := (firstLast.trans between).trans secondLast
  refine ⟨onward.wellKept, ⟨fun id member => ?_, fun id member => ?_⟩⟩
  · exact onward.applications.isOwned (Store.isOwned_of_answer_listBy before.wellKept.applications
      (congrArg Prod.fst firstListing) member)
  · exact secondLast.endpoints.isOwned (Store.isOwned_of_answer_listBy between.wellKept.endpoints
      (congrArg Prod.fst secondListing) member)

/-- A reconciliation writes nothing but what is its discoverer's own, whatever the others
do, as long as these let everything last. -/
theorem ensures_reconcile (supply : Nat → String) (run : Run) (now : Timestamp)
    (results : List ResultRecord) (contents : Contents) :
    (reconcile run now results).Ensures (shared supply run.discovererId) (fun _ _ => True)
      contents := by
  rw [reconcile_eq]
  refine ⟨permits_listApplications, fun reply middle firstAnswer => ?_⟩
  cases reply with
  | error fault => trivial
  | ok applications =>
      refine ⟨permits_listEndpoints, fun reply start secondAnswer => ?_⟩
      cases reply with
      | error fault => trivial
      | ok endpoints =>
          obtain ⟨kept, owned⟩ := owned_of_listings firstAnswer secondAnswer
          exact (behaves_reconcileListed owned now results start (.refl kept)).imp
            fun _ _ _ => trivial

end FieldSurvey.Registry
