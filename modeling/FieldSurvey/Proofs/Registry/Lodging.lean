import FieldSurvey.Proofs.Registry.Isolation

/-!
# Endpoints are of stored applications

A reconciliation stores an endpoint only of an application that its discoverer owns, whatever
others do meanwhile and however calls fail.  So in a registry that only reconciliations have
written, every endpoint is of a stored application of its own discoverer.
-/

namespace FieldSurvey.Registry

open Model (Application Endpoint Registration ResultRecord)
open Time (Timestamp)

/-! ## Endpoints of stored applications -/

/-- A registry in which every endpoint is of a stored application of its own discoverer. -/
def Contents.IsLodged (contents : Contents) : Prop :=
  ∀ id endpoint, contents.endpoints.get? id = some endpoint →
    ∃ owner, endpoint.discovererId = some owner ∧
      Store.IsOwned owner (contents.applications.get? endpoint.applicationId)

/-- The calls by which endpoints are stored only of applications that a discoverer owns. -/
def Contents.Lodges (discovererId : String) (contents : Contents) : Call → Prop
  | .endpoint (.add endpoint) =>
    Store.IsOwned discovererId (contents.applications.get? endpoint.applicationId)
  | .endpoint (.update endpoint) =>
    Store.IsOwned discovererId (contents.applications.get? endpoint.applicationId)
  | _ => True

/-- What a discoverer may update is its own. -/
theorem Store.Permits.discovererId_of_update {α : Type} [Entity α] [NaturedEntity α]
    {store : Store α} {discovererId : String} {entity : α}
    (permitted : store.Permits discovererId (.update entity)) :
    Entity.discovererId entity = some discovererId := by
  obtain ⟨former, -, owned, same⟩ := permitted
  exact (NaturedEntity.discovererId_of_nature same).trans owned

/-- Whoever writes nothing but what is its own, and endpoints only of applications of its own,
leaves every endpoint with an application. -/
theorem Contents.IsLodged.answer {contents : Contents} (lodged : contents.IsLodged)
    {discovererId : String} {request : Call} (permitted : contents.Permits discovererId request)
    (lodges : contents.Lodges discovererId request) (supply : Nat → String)
    (fault? : Option Fault) : (Contents.answer supply fault? request contents).2.IsLodged := by
  cases request with
  | application request =>
      intro id endpoint present
      obtain ⟨owner, owned, home⟩ := lodged id endpoint present
      exact ⟨owner, owned, (Store.Permits.persists permitted supply fault?).isOwned home⟩
  | endpoint request =>
      have wrote : ∀ entity : Endpoint, entity.discovererId = some discovererId →
          Store.IsOwned discovererId (contents.applications.get? entity.applicationId) →
          ({ contents with
            endpoints := (contents.endpoints.write supply entity).2 } : Contents).IsLodged := by
        intro entity own home id endpoint present
        dsimp only at present
        rw [Store.get?_write] at present
        split at present
        · cases present
          exact ⟨discovererId, own, home⟩
        · exact lodged id endpoint present
      intro id endpoint present
      rcases Store.answer_cases supply contents.endpoints fault? request with
        same | ⟨entity, stored, ⟨rfl, -⟩ | rfl⟩
      · exact lodged id endpoint (same ▸ present)
      · exact wrote entity permitted lodges id endpoint (stored ▸ present)
      · exact wrote entity (Store.Permits.discovererId_of_update permitted) lodges id endpoint
          (stored ▸ present)

/-- A registry that has grown from another one, and in which every endpoint has an application. -/
structure Contents.Grows (before after : Contents) : Prop extends
    Contents.Persists before after where
  lodged : after.IsLodged

theorem Contents.Grows.refl {contents : Contents} (kept : contents.WellKept)
    (lodged : contents.IsLodged) : contents.Grows contents :=
  ⟨.refl kept, lodged⟩

theorem Contents.Grows.trans {before middle after : Contents} (first : before.Grows middle)
    (second : middle.Grows after) : before.Grows after :=
  ⟨first.toPersists.trans second.toPersists, second.lodged⟩

theorem Contents.Grows.still {before after : Contents} (grown : before.Grows after) :
    after.Grows after :=
  .refl grown.wellKept grown.lodged

/-! ## Programs that store endpoints of stored applications -/

section Programs

variable {supply : Nat → String} {discovererId : String} {start contents : Contents}

/-- The setting of a discoverer that shares the registry with others, in which every endpoint has
an application. -/
def lodging (supply : Nat → String) (discovererId : String) : Setting Calls Contents :=
  Setting.among Contents.Grows
    { permits := Contents.Lodges discovererId
      answers := fun contents request reply after =>
        contents.Grows after ∧
          ∃ fault?, Contents.answer supply fault? request contents = (reply, after) }

/-- What may come of a call among others that only let the registry grow is what may come of it
among others that let everything last. -/
theorem shared_of_lodging {request : Call} {reply : Call.Reply request} {after : Contents}
    (answered : (lodging supply discovererId).answers contents request reply after) :
    (shared supply discovererId).answers contents request reply after := by
  obtain ⟨later, grown, -, answer⟩ := answered
  exact ⟨later, grown.toPersists, answer⟩

theorem grows_of_lodging {request : Call} {reply : Call.Reply request} {after : Contents}
    (answered : (lodging supply discovererId).answers contents request reply after) :
    contents.Grows after := by
  obtain ⟨later, grown, last, -⟩ := answered
  exact grown.trans last

/-- Whether a program, from wherever a registry has grown to, stores endpoints only of
applications that a discoverer owns, and ends as it should. -/
def Accommodates {β : Type} (supply : Nat → String) (discovererId : String) (start : Contents)
    (program : Program Calls β) (suits : β → Contents → Prop) : Prop :=
  ∀ contents, start.Grows contents →
    program.Ensures (lodging supply discovererId)
      (fun value reached => start.Grows reached ∧ suits value reached) contents

namespace Accommodates

variable {β γ : Type} {suits : β → Contents → Prop}

theorem done {value : β} (suitable : ∀ contents, start.Grows contents → suits value contents) :
    Accommodates supply discovererId start (.done value) suits :=
  fun contents grown => ⟨grown, suitable contents grown⟩

theorem bind {between : γ → Contents → Prop} {program : Program Calls γ}
    {next : γ → Program Calls β}
    (first : Accommodates supply discovererId start program between)
    (second : ∀ value reached, start.Grows reached → between value reached →
      Accommodates supply discovererId reached (next value) suits) :
    Accommodates supply discovererId start (program.bind next) suits := by
  intro contents grown
  apply (first contents grown).bind
  rintro value reached ⟨since, suitable⟩
  apply (second value reached since suitable reached since.still).imp
  rintro result final ⟨after, ends⟩
  exact ⟨since.trans after, ends⟩

theorem ask (request : Call)
    (lodges : ∀ contents, start.Grows contents → contents.Lodges discovererId request) :
    Accommodates supply discovererId start (Program.ask (S := Calls) request)
      fun reply reached => ∃ later fault?, start.Grows later ∧
        Contents.answer supply fault? request later = (reply, reached) := by
  intro contents grown
  refine ⟨fun later more => lodges later (grown.trans more), ?_⟩
  rintro reply after ⟨later, more, last, fault?, answer⟩
  exact ⟨(grown.trans more).trans last, later, fault?, grown.trans more, answer⟩

/-- Calls of the application store leave endpoints alone. -/
theorem onApplications (program : Program (StoreSignature Application) β) :
    Accommodates supply discovererId start (Registry.onApplications program) fun _ _ => True := by
  induction program generalizing start with
  | done value => exact done fun _ _ => trivial
  | call request next ih =>
      apply bind (ask (.application request) fun _ _ => trivial)
      intro reply reached grown _
      exact ih reply

/-- A revision of an endpoint, by a change that makes it an endpoint of an application that the
discoverer owns. -/
theorem reviseEndpoint {id : String} {change : Endpoint → Option Endpoint}
    (fits : ∀ contents current entity, start.Grows contents →
      contents.endpoints.get? id = some current → change current = some entity →
      Store.IsOwned discovererId (contents.applications.get? entity.applicationId))
    (attempts : Nat) :
    Accommodates supply discovererId start (onEndpoints (Revision.revise id attempts change))
      fun _ _ => True := by
  intro contents grown
  let calls : Setting (StoreSignature Endpoint) Contents :=
    { permits := fun contents request =>
        (lodging supply discovererId).permits contents (.endpoint request)
      answers := fun contents request =>
        (lodging supply discovererId).answers contents (.endpoint request) }
  have revised : (Revision.revise id attempts change).Ensures calls
      (fun _ reached => start.Grows reached) contents := by
    refine ensures_attempt ?_ ?_ ?_ _ _ _ _ grown
    · intro state since later more
      trivial
    · intro state request reply after since permitted answered
      exact since.trans (grows_of_lodging answered)
    · rintro state current after applied entity since ⟨later, more, last, fault?, answer⟩ changed
        end_ onward
      have present : later.endpoints.get? id = some current :=
        Store.get?_of_answer_get (congrArg Prod.fst answer)
      exact (last.trans onward).applications.isOwned
        (fits later current entity (since.trans more) present changed)
  have translated : (onEndpoints (Revision.revise id attempts change)).Ensures
      (lodging supply discovererId) (fun _ reached => start.Grows reached) contents := by
    apply revised.translate
    intro request state permitted
    exact ⟨permitted, fun reply after answered => answered⟩
  exact translated.imp fun _ _ since => ⟨since, trivial⟩

end Accommodates

/-! ## The passes of a reconciliation -/

/-- What was added on behalf of a discoverer is its own. -/
theorem Store.isOwned_of_answer_add {α : Type} [Entity α] [LawfulEntity α] {store after : Store α}
    {fault? : Option Fault} {entity stored : α}
    (own : Entity.discovererId entity = some discovererId)
    (added : answer supply fault? (.add entity) store = (.ok stored, after)) :
    IsOwned discovererId (after.get? (Entity.id entity)) := by
  cases fault? with
  | some fault => cases congrArg Prod.fst added
  | none =>
      cases found : store.get? (Entity.id entity) with
      | some former =>
          simp only [answer, handler_add, add_of_taken found] at added
          cases congrArg Prod.fst added
      | none =>
          simp only [answer, handler_add, add_of_free found] at added
          obtain ⟨-, rfl⟩ := Prod.mk.inj added
          simp [get?_write, write_fst, own]

section Passes

variable {run : Run} {listed : Listed}

theorem accommodates_addApplication {seen : Application}
    (own : seen.discovererId = some run.discovererId) (summary : Summary) :
    Accommodates supply run.discovererId start (addApplication run seen summary)
      fun result reached => result.1 = .written →
        Store.IsOwned run.discovererId (reached.applications.get? seen.applicationId) := by
  apply Accommodates.bind
    (Accommodates.ask (.application (.add (newApplication run seen))) fun _ _ => trivial)
  rintro reply reached grown ⟨later, fault?, -, answer⟩
  split
  · rename_i stored
    apply Accommodates.done
    intro contents more _
    have added : Store.answer supply fault? (.add (newApplication run seen)) later.applications =
        (.ok stored, reached.applications) :=
      congrArg (fun outcome => (outcome.1, outcome.2.applications)) answer
    have ownNew : Entity.discovererId (newApplication run seen) = some run.discovererId := own
    have stands := Store.isOwned_of_answer_add ownNew added
    exact more.applications.isOwned stands
  · exact .done fun _ _ written => by contradiction
  · exact .done fun _ _ written => by contradiction

theorem accommodates_writeApplication {seen : Application} {isListed : Bool}
    (own : seen.discovererId = some run.discovererId)
    (owned : isListed →
      Store.IsOwned run.discovererId (start.applications.get? seen.applicationId))
    (summary : Summary) :
    Accommodates supply run.discovererId start (writeApplication run isListed seen summary)
      fun result reached => result.1 = .written →
        Store.IsOwned run.discovererId (reached.applications.get? seen.applicationId) := by
  cases isListed with
  | false => exact accommodates_addApplication own summary
  | true =>
      apply (Accommodates.onApplications _).bind
      intro revision reached grown _
      have stillOwned : ∀ contents, reached.Grows contents → Store.IsOwned run.discovererId
          (contents.applications.get? seen.applicationId) := fun contents more =>
        (grown.trans more).applications.isOwned (owned rfl)
      split
      · split <;> exact .done fun contents more _ => stillOwned contents more
      · exact accommodates_addApplication own summary
      · exact .done fun _ _ written => by contradiction

theorem accommodates_addEndpoint {seen : Endpoint}
    (home : Store.IsOwned run.discovererId (start.applications.get? seen.applicationId))
    (summary : Summary) :
    Accommodates supply run.discovererId start (addEndpoint seen summary) fun _ _ => True := by
  refine Accommodates.bind (Accommodates.ask (.endpoint (.add (newEndpoint seen))) fun _ grown =>
    grown.applications.isOwned home) ?_
  intro reply reached grown _
  split <;> exact .done fun _ _ => trivial

theorem accommodates_writeEndpoint {seen : Endpoint}
    (home : Store.IsOwned run.discovererId (start.applications.get? seen.applicationId))
    (isListed : Bool) (summary : Summary) :
    Accommodates supply run.discovererId start (writeEndpoint run isListed seen summary)
      fun _ _ => True := by
  cases isListed with
  | false => exact accommodates_addEndpoint home summary
  | true =>
      apply Accommodates.bind
      · apply Accommodates.reviseEndpoint
        intro contents current entity grown present changed
        obtain ⟨-, rfl⟩ := refreshedEndpoint_eq_some_iff.mp changed
        exact grown.applications.isOwned home
      · intro revision reached grown _
        split
        · split <;> exact .done fun _ _ => trivial
        · exact accommodates_addEndpoint (grown.applications.isOwned home) summary
        · exact .done fun _ _ => trivial

theorem accommodates_writeEndpoints {endpoints : List Endpoint}
    (homes : ∀ endpoint ∈ endpoints,
      Store.IsOwned run.discovererId (start.applications.get? endpoint.applicationId))
    (seen : Seen) (summary : Summary) :
    Accommodates supply run.discovererId start (writeEndpoints run listed endpoints seen summary)
      fun _ _ => True := by
  induction endpoints generalizing start seen summary with
  | nil => exact .done fun _ _ => trivial
  | cons first rest ih =>
      apply (accommodates_writeEndpoint (homes first List.mem_cons_self) _ summary).bind
      intro counted reached grown _
      apply ih
      intro endpoint member
      exact grown.applications.isOwned (homes endpoint (List.mem_cons_of_mem first member))

theorem Listed.Owned.grows (owned : listed.Owned discovererId start)
    (grown : start.Grows contents) : listed.Owned discovererId contents where
  applications id member := grown.applications.isOwned (owned.applications id member)
  endpoints id member := grown.endpoints.isOwned (owned.endpoints id member)

/-- The endpoints of a candidate are written only if its application is stored by then: it was
written just before, or it was listed. -/
theorem accommodates_writeCandidates (owned : listed.Owned run.discovererId start)
    {candidates : List Registration}
    (own : ∀ candidate ∈ candidates,
      candidate.application.discovererId = some run.discovererId)
    (belongs : ∀ candidate ∈ candidates, ∀ endpoint ∈ candidate.endpoints,
      endpoint.applicationId = candidate.application.applicationId)
    (seen : Seen) (summary : Summary) :
    Accommodates supply run.discovererId start
      (writeCandidates run listed candidates seen summary) fun _ _ => True := by
  induction candidates generalizing start seen summary with
  | nil => exact .done fun _ _ => trivial
  | cons first rest ih =>
      have others : ∀ {reached : Contents}, start.Grows reached → ∀ seen summary,
          Accommodates supply run.discovererId reached
            (writeCandidates run listed rest seen summary) fun _ _ => True := fun grown =>
        ih (owned.grows grown)
          (fun candidate member => own candidate (List.mem_cons_of_mem first member))
          (fun candidate member => belongs candidate (List.mem_cons_of_mem first member))
      have listedOwned : listed.applications.contains first.application.applicationId →
          Store.IsOwned run.discovererId
            (start.applications.get? first.application.applicationId) := fun isListed =>
        owned.applications _ (List.contains_iff_mem.mp isListed)
      apply (accommodates_writeApplication (own first List.mem_cons_self) listedOwned summary).bind
      rintro ⟨outcome, counted⟩ reached grown written
      dsimp only
      split
      · exact others grown _ _
      · rename_i unskipped
        split
        · exact others grown _ _
        · rename_i unfailed
          have home : Store.IsOwned run.discovererId
              (reached.applications.get? first.application.applicationId) := by
            cases outcome with
            | written => exact written rfl
            | skipped => exact absurd rfl unskipped
            | failed =>
                refine grown.applications.isOwned (listedOwned ?_)
                by_contra unlisted
                exact unfailed ⟨rfl, by simpa using unlisted⟩
          apply Accommodates.bind
          · apply accommodates_writeEndpoints
            intro endpoint member
            rw [belongs first List.mem_cons_self endpoint member]
            exact home
          · intro result final more _
            exact others (grown.trans more) _ _

theorem accommodates_loseApplications (now : Timestamp) (ids : List String) (summary : Summary) :
    Accommodates supply discovererId start (loseApplications run now ids summary)
      fun _ _ => True := by
  induction ids generalizing start summary with
  | nil => exact .done fun _ _ => trivial
  | cons first rest ih =>
      apply (Accommodates.onApplications _).bind
      intro revision reached grown _
      exact ih _

/-- An endpoint that becomes lost is of the application that it was of. -/
theorem accommodates_loseEndpoints (now : Timestamp) {ids : List String}
    (owned : ∀ id ∈ ids, Store.IsOwned run.discovererId (start.endpoints.get? id))
    (summary : Summary) :
    Accommodates supply run.discovererId start (loseEndpoints run now ids summary)
      fun _ _ => True := by
  induction ids generalizing start summary with
  | nil => exact .done fun _ _ => trivial
  | cons first rest ih =>
      apply Accommodates.bind
      · apply Accommodates.reviseEndpoint
        intro contents current entity grown present changed
        obtain ⟨owner, isOwner, home⟩ := grown.lodged first current present
        have own := grown.endpoints.isOwned (owned first List.mem_cons_self)
        rw [present] at own
        have isOwn : current.discovererId = some run.discovererId := by
          simpa [Entity.discovererId] using own
        obtain rfl : owner = run.discovererId := Option.some.inj (isOwner.symm.trans isOwn)
        obtain ⟨-, rfl⟩ := lostEndpoint_eq_some_iff.mp changed
        exact home
      · intro revision reached grown _
        apply ih
        intro id member
        exact grown.endpoints.isOwned (owned id (List.mem_cons_of_mem first member))

end Passes

/-- A reconciliation stores endpoints only of applications that its discoverer owns, whatever the
others do, as long as these only let the registry grow. -/
theorem lodging_reconcile (supply : Nat → String) (run : Run) (now : Timestamp)
    (results : List ResultRecord) (contents : Contents) :
    (reconcile run now results).Ensures (lodging supply run.discovererId) (fun _ _ => True)
      contents := by
  have grouped : Grouped (grouped (sightings run.discovererId results)) :=
    Grouped.of_seen fun sighting => ids_of_mem_sightings
  rw [reconcile_eq]
  refine ⟨fun _ _ => trivial, fun reply middle firstAnswer => ?_⟩
  cases reply with
  | error fault => trivial
  | ok applications =>
      refine ⟨fun _ _ => trivial, fun reply start secondAnswer => ?_⟩
      cases reply with
      | error fault => trivial
      | ok endpoints =>
          have grown := grows_of_lodging secondAnswer
          obtain ⟨-, owned⟩ :=
            owned_of_listings (shared_of_lodging firstAnswer) (shared_of_lodging secondAnswer)
          have accommodates : Accommodates supply run.discovererId start
              (reconcileListed run now results
                { applications := applications.map Application.applicationId
                  endpoints := endpoints.map Endpoint.id }) fun _ _ => True := by
            apply Accommodates.bind
            · apply accommodates_writeCandidates owned
              · intro candidate member
                obtain ⟨sighting, inBatch, same⟩ := exists_sighting_of_candidate member
                exact same ▸ (discovererId_of_mem_sightings inBatch).1
              · exact grouped.belongs
            · rintro ⟨seen, summary⟩ written grownThen _
              apply (accommodates_loseApplications now _ summary).bind
              intro summary reached since _
              apply Accommodates.bind
              · apply accommodates_loseEndpoints
                intro id member
                exact (grownThen.trans since).endpoints.isOwned
                  (owned.endpoints id (mem_missing.mp member).1)
              · intro summary final _ _
                exact .done fun _ _ => trivial
          exact (accommodates start grown.still).imp fun _ _ _ => trivial

end Programs

/-! ## Turns -/

namespace Traffic

variable {ι : Type} {supply : Nat → String} {errands : ι → Errand} {traffic : Traffic ι}

/-- A registry in which every endpoint has an application, and on which everyone keeps it that
way. -/
structure Lodged (supply : Nat → String) (errands : ι → Errand) (traffic : Traffic ι) :
    Prop extends Orderly supply errands traffic where
  lodged : traffic.contents.IsLodged
  lodging : ∀ client, (traffic.programs client).Ensures
    (lodging supply (errands client).run.discovererId) (fun _ _ => True) traffic.contents

theorem lodged_start (supply : Nat → String) (errands : ι → Errand) :
    (start errands {}).Lodged supply errands where
  toOrderly := orderly_start supply errands ⟨Store.wellKept_empty, Store.wellKept_empty⟩
  lodged id endpoint present := by simp [start, Store.get?] at present
  lodging client := lodging_reconcile supply (errands client).run (errands client).now
    (errands client).results {}

variable [DecidableEq ι]

theorem Lodged.step (lodged : traffic.Lodged supply errands) (turn : ι × Option Fault) :
    (traffic.step supply turn).Lodged supply errands := by
  have orderly := lodged.toOrderly.step turn
  have persists := lodged.toOrderly.persists turn
  have shares := lodged.programs turn.1
  have lodges := lodged.lodging turn.1
  unfold Traffic.step at orderly persists ⊢
  cases program : traffic.programs turn.1 with
  | done result => exact lodged
  | call request next =>
      rw [program] at shares lodges orderly persists
      have permitted := shares.1 traffic.contents (.refl lodged.wellKept)
      have here := lodges.1 traffic.contents (.refl lodged.wellKept lodged.lodged)
      have after := lodged.lodged.answer permitted here supply turn.2
      have grown : traffic.contents.Grows (Contents.answer supply turn.2 request
          traffic.contents).2 := ⟨persists, after⟩
      refine ⟨orderly, after, fun client => ?_⟩
      by_cases same : client = turn.1
      · subst same
        simp only [Function.update_self]
        exact lodges.2 _ _ ⟨traffic.contents, .refl lodged.wellKept lodged.lodged, grown,
          turn.2, rfl⟩
      · simp only [Function.update_of_ne same]
        exact (lodged.lodging client).later Contents.Grows.trans (fun _ _ => trivial) grown

theorem lodged_play (supply : Nat → String) (errands : ι → Errand)
    (turns : List (ι × Option Fault)) : (play supply errands {} turns).Lodged supply errands := by
  have run : ∀ traffic : Traffic ι, traffic.Lodged supply errands →
      (turns.foldl (Traffic.step supply) traffic).Lodged supply errands := by
    induction turns with
    | nil => exact fun traffic lodged => lodged
    | cons turn rest ih => exact fun traffic lodged => ih _ (lodged.step turn)
  exact run _ (lodged_start supply errands)

end Traffic

end FieldSurvey.Registry
