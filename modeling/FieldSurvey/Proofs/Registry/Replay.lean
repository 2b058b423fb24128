import FieldSurvey.Proofs.Registry.Undated
import FieldSurvey.Registry.Delivery

/-!
# Replaying batches

Reconciling the same batches again, at other times and with other names for the
generations, leads to a registry that is the same but for dates.  Every part of a
reconciliation treats registries alike that resemble each other: it finds and counts the
same, and leaves registries that still resemble each other.
-/

namespace FieldSurvey.Registry

open Model (Application Context Endpoint Registration ResultRecord)
open Time (Timestamp)

/-- Two registries that are the same but for dates. -/
structure Contents.Resembles (left right : Contents) : Prop where
  applications : left.applications.Resembles right.applications
  endpoints : left.endpoints.Resembles right.endpoints

/-- What the registry holds, without dates. -/
def Contents.undated (contents : Contents) :
    List (String × Application) × List (String × Endpoint) :=
  (contents.applications.undated, contents.endpoints.undated)

theorem Contents.resembles_empty : Contents.Resembles {} {} :=
  ⟨Store.resembles_empty, Store.resembles_empty⟩

theorem Contents.Resembles.undated_eq {left right : Contents} (resembles : left.Resembles right) :
    left.undated = right.undated :=
  Prod.ext resembles.applications.undated_eq resembles.endpoints.undated_eq

/-- Two runs on behalf of the same discoverer, whose contexts are the same but for a
reading of the clock. -/
structure Run.Resembles (first second : Run) : Prop where
  discovererId : first.discovererId = second.discovererId
  context : first.context.undated = second.context.undated

/-- Two programs that do the same, up to dates, to registries that resemble each other,
and whose values agree. -/
def Parallel {β : Type} (supply other : Nat → String) (agree : β → β → Prop)
    (first second : Program Calls β) : Prop :=
  ∀ ⦃left right : Contents⦄, left.Resembles right →
    agree (first.run (Contents.handler supply) left).1
        (second.run (Contents.handler other) right).1 ∧
      (first.run (Contents.handler supply) left).2.Resembles
        (second.run (Contents.handler other) right).2

variable {supply other : Nat → String} {first second : Run}

theorem parallel_pure {β : Type} (value : β) :
    Parallel supply other Eq (pure value) (pure value) :=
  fun _ _ resembles => ⟨rfl, resembles⟩

/-- Sequences of parallel programs are parallel. -/
theorem Parallel.bind {β γ : Type} {agree : β → β → Prop} {agreeAfter : γ → γ → Prop}
    {here there : Program Calls β} {next nextThere : β → Program Calls γ}
    (parallel : Parallel supply other agree here there)
    (onward : ∀ value twin, agree value twin →
      Parallel supply other agreeAfter (next value) (nextThere twin)) :
    Parallel supply other agreeAfter (here >>= next) (there >>= nextThere) := by
  intro left right resembles
  obtain ⟨agreed, resemble⟩ := parallel resembles
  rw [Program.bind_eq, Program.bind_eq, Program.run_bind, Program.run_bind]
  exact onward _ _ agreed resemble

/-! ## Revisions -/

theorem parallel_reviseApplication (id : String) (attempts attemptsThere : Nat)
    {change changeThere : Application → Option Application} (keeps : KeepsIdentity change)
    (keepsThere : KeepsIdentity changeThere) (concur : Concur change changeThere) :
    Parallel supply other (fun revision twin => revision.gist = twin.gist)
      (onApplications (Revision.revise id attempts change))
      (onApplications (Revision.revise id attemptsThere changeThere)) := by
  intro left right resembles
  rw [run_onApplications, run_onApplications,
    Store.run_revise resembles.applications.leftKept id attempts keeps,
    Store.run_revise resembles.applications.rightKept id attemptsThere keepsThere]
  obtain ⟨gist, applications⟩ :=
    resembles.applications.revised supply other id concur
  exact ⟨gist, applications, resembles.endpoints⟩

theorem parallel_reviseEndpoint (id : String) (attempts attemptsThere : Nat)
    {change changeThere : Endpoint → Option Endpoint} (keeps : KeepsIdentity change)
    (keepsThere : KeepsIdentity changeThere) (concur : Concur change changeThere) :
    Parallel supply other (fun revision twin => revision.gist = twin.gist)
      (onEndpoints (Revision.revise id attempts change))
      (onEndpoints (Revision.revise id attemptsThere changeThere)) := by
  intro left right resembles
  rw [run_onEndpoints, run_onEndpoints,
    Store.run_revise resembles.endpoints.leftKept id attempts keeps,
    Store.run_revise resembles.endpoints.rightKept id attemptsThere keepsThere]
  obtain ⟨gist, endpoints⟩ :=
    resembles.endpoints.revised supply other id concur
  exact ⟨gist, resembles.applications, endpoints⟩

/-! ## Changes -/

/-- Whether an application is as it was seen does not depend on dates. -/
theorem found_eq_iff_undated (seen stored : Application) :
    (stored.rediscovered seen).found = stored ↔
      (stored.undated.rediscovered seen).found = stored.undated := by
  cases stored
  simp [Application.rediscovered, Application.found, Application.undated, eq_comm (a := none)]

theorem concur_refreshedApplication (resemble : first.Resembles second) (seen : Application) :
    Concur (refreshedApplication first seen) (refreshedApplication second seen) := by
  intro left right same
  have undated_eq : left.undated = right.undated := same
  have fresh : (left.rediscovered seen).found = left ↔ (right.rediscovered seen).found = right := by
    rw [found_eq_iff_undated, undated_eq, ← found_eq_iff_undated]
  have value : Application.undated
        { (left.rediscovered seen).found with updated := some first.context } =
      Application.undated
        { (right.rediscovered seen).found with updated := some second.context } := by
    have wide := congrArg (fun undated => { (undated.rediscovered seen).found with
      updated := some first.context.undated }) undated_eq
    rw [resemble.context] at wide
    simpa [Application.undated, Application.rediscovered, Application.found,
      resemble.context] using wide
  by_cases asSeen : (left.rediscovered seen).found = left
  · have asSeenThere := fresh.mp asSeen
    simp only [refreshedApplication, if_pos asSeen, if_pos asSeenThere]
  · have notThere := fun there => asSeen (fresh.mpr there)
    simp only [refreshedApplication, if_neg asSeen, if_neg notThere, Option.map_some]
    exact congrArg some value

theorem concur_refreshedEndpoint (seen : Endpoint) :
    Concur (refreshedEndpoint seen) (refreshedEndpoint seen) := by
  intro left right same
  have undated_eq : left.undated = right.undated := same
  have asUndated : ∀ stored : Endpoint, (stored.rediscovered seen).found = stored ↔
      (stored.undated.rediscovered seen).found = stored.undated := by
    intro stored
    cases stored
    simp [Endpoint.rediscovered, Endpoint.found, Endpoint.undated, eq_comm (a := none)]
  have fresh : (left.rediscovered seen).found = left ↔ (right.rediscovered seen).found = right := by
    rw [asUndated, undated_eq, ← asUndated]
  by_cases asSeen : (left.rediscovered seen).found = left
  · simp only [refreshedEndpoint, if_pos asSeen, if_pos (fresh.mp asSeen)]
  · have notThere := fun there => asSeen (fresh.mpr there)
    simp only [refreshedEndpoint, if_neg asSeen, if_neg notThere, Option.map_some]
    exact congrArg (fun undated => some (undated.rediscovered seen).found) undated_eq

theorem concur_lostApplication (resemble : first.Resembles second) (now nowThere : Timestamp) :
    Concur (lostApplication first now) (lostApplication second nowThere) := by
  intro left right same
  have undated_eq : left.undated = right.undated := same
  have lost := congrArg Application.isLost undated_eq
  change left.isLost = right.isLost at lost
  unfold lostApplication
  rw [lost]
  split
  · rfl
  · rename_i notLost
    have value := congrArg (fun undated : Application => { undated with
      visibility := .lost
      notSeenSince := some .epoch
      updated := some first.context.undated }) undated_eq
    simp only [Application.lost, lost, notLost, Option.map_some]
    refine congrArg some (value.trans ?_)
    rw [resemble.context]
    rfl

theorem concur_lostEndpoint (now nowThere : Timestamp) :
    Concur (lostEndpoint now) (lostEndpoint nowThere) := by
  intro left right same
  have undated_eq : left.undated = right.undated := same
  have lost := congrArg Endpoint.isLost undated_eq
  change left.isLost = right.isLost at lost
  unfold lostEndpoint
  rw [lost]
  split
  · rfl
  · rename_i notLost
    simp only [Endpoint.lost, lost, notLost, Option.map_some]
    exact congrArg (fun undated : Endpoint => some { undated with
      visibility := .lost
      notSeenSince := some .epoch }) undated_eq

/-! ## Writing -/

theorem parallel_addApplication (resemble : first.Resembles second) (seen : Application)
    (summary : Summary) :
    Parallel supply other Eq (addApplication first seen summary)
      (addApplication second seen summary) := by
  intro left right resembles
  have stored := resembles.applications.get?_undated seen.applicationId
  rw [run_addApplication, run_addApplication]
  cases here : left.applications.get? seen.applicationId with
  | none =>
      cases there : right.applications.get? seen.applicationId with
      | some _ => simp [here, there] at stored
      | none =>
          refine ⟨rfl, resembles.applications.write ?_, resembles.endpoints⟩
          have value := congrArg (fun context => { Application.undated seen.found with
            created := some context
            updated := none
            generationId := none }) resemble.context
          exact value
  | some _ =>
      cases there : right.applications.get? seen.applicationId with
      | none => simp [here, there] at stored
      | some _ => exact ⟨rfl, resembles⟩

theorem parallel_addEndpoint (seen : Endpoint) (summary : Summary) :
    Parallel supply other Eq (addEndpoint seen summary) (addEndpoint seen summary) := by
  intro left right resembles
  have stored := resembles.endpoints.get?_undated seen.id
  rw [run_addEndpoint, run_addEndpoint]
  cases here : left.endpoints.get? seen.id with
  | none =>
      cases there : right.endpoints.get? seen.id with
      | some _ => simp [here, there] at stored
      | none => exact ⟨rfl, resembles.applications, resembles.endpoints.write rfl⟩
  | some _ =>
      cases there : right.endpoints.get? seen.id with
      | none => simp [here, there] at stored
      | some _ => exact ⟨rfl, resembles⟩

theorem parallel_writeApplication (resemble : first.Resembles second) (listed : Bool)
    (seen : Application) (summary : Summary) :
    Parallel supply other Eq (writeApplication first listed seen summary)
      (writeApplication second listed seen summary) := by
  cases listed with
  | false => exact parallel_addApplication resemble seen summary
  | true =>
      apply (parallel_reviseApplication seen.applicationId first.attempts second.attempts
        (keepsIdentity_refreshedApplication first seen)
        (keepsIdentity_refreshedApplication second seen)
        (concur_refreshedApplication resemble seen)).bind
      intro revision twin gist
      obtain ⟨_, _, here, there, changed⟩ | ⟨here, there⟩ | ⟨_, here, there⟩ :=
        cases_of_gist_eq gist
      · rw [here, there]
        simp only [changed]
        split <;> exact parallel_pure _
      · rw [here, there]
        exact parallel_addApplication resemble seen summary
      · rw [here, there]
        exact parallel_pure _

theorem parallel_writeEndpoint (listed : Bool) (seen : Endpoint) (summary : Summary) :
    Parallel supply other Eq (writeEndpoint first listed seen summary)
      (writeEndpoint second listed seen summary) := by
  cases listed with
  | false => exact parallel_addEndpoint seen summary
  | true =>
      apply (parallel_reviseEndpoint seen.id first.attempts second.attempts
        (keepsIdentity_refreshedEndpoint seen) (keepsIdentity_refreshedEndpoint seen)
        (concur_refreshedEndpoint seen)).bind
      intro revision twin gist
      obtain ⟨_, _, here, there, changed⟩ | ⟨here, there⟩ | ⟨_, here, there⟩ :=
        cases_of_gist_eq gist
      · rw [here, there]
        simp only [changed]
        split <;> exact parallel_pure _
      · rw [here, there]
        exact parallel_addEndpoint seen summary
      · rw [here, there]
        exact parallel_pure _

/-! ## The passes -/

theorem parallel_writeEndpoints (listed : Listed) (endpoints : List Endpoint) (seen : Seen)
    (summary : Summary) :
    Parallel supply other Eq (writeEndpoints first listed endpoints seen summary)
      (writeEndpoints second listed endpoints seen summary) := by
  induction endpoints generalizing seen summary with
  | nil => exact parallel_pure _
  | cons endpoint rest ih =>
      apply (parallel_writeEndpoint _ endpoint summary).bind
      rintro counted _ rfl
      exact ih _ _

theorem parallel_writeCandidates (resemble : first.Resembles second) (listed : Listed)
    (candidates : List Registration) (seen : Seen) (summary : Summary) :
    Parallel supply other Eq (writeCandidates first listed candidates seen summary)
      (writeCandidates second listed candidates seen summary) := by
  induction candidates generalizing seen summary with
  | nil => exact parallel_pure _
  | cons candidate rest ih =>
      apply (parallel_writeApplication resemble _ candidate.application summary).bind
      rintro written _ rfl
      dsimp only
      split
      · exact ih _ _
      · split
        · exact ih _ _
        · apply (parallel_writeEndpoints listed candidate.endpoints _ _).bind
          rintro reached _ rfl
          exact ih _ _

theorem parallel_loseApplications (resemble : first.Resembles second)
    (now nowThere : Timestamp) (ids : List String) (summary : Summary) :
    Parallel supply other Eq (loseApplications first now ids summary)
      (loseApplications second nowThere ids summary) := by
  induction ids generalizing summary with
  | nil => exact parallel_pure _
  | cons id rest ih =>
      apply (parallel_reviseApplication id first.attempts second.attempts
        (keepsIdentity_lostApplication first now) (keepsIdentity_lostApplication second nowThere)
        (concur_lostApplication resemble now nowThere)).bind
      intro revision twin gist
      rw [countLost_eq_of_gist_eq gist]
      exact ih _

theorem parallel_loseEndpoints (now nowThere : Timestamp) (ids : List String)
    (summary : Summary) :
    Parallel supply other Eq (loseEndpoints first now ids summary)
      (loseEndpoints second nowThere ids summary) := by
  induction ids generalizing summary with
  | nil => exact parallel_pure _
  | cons id rest ih =>
      apply (parallel_reviseEndpoint id first.attempts second.attempts
        (keepsIdentity_lostEndpoint now) (keepsIdentity_lostEndpoint nowThere)
        (concur_lostEndpoint now nowThere)).bind
      intro revision twin gist
      rw [countLost_eq_of_gist_eq gist]
      exact ih _

/-! ## Reconciling -/

theorem parallel_listApplications (discovererId : String) :
    Parallel supply other
      (fun reply twin => ∃ owned counterparts, reply = .ok owned ∧ twin = .ok counterparts ∧
        owned.map Application.applicationId = counterparts.map Application.applicationId)
      (Program.ask (S := Calls) (Call.application (.listBy discovererId)))
      (Program.ask (S := Calls) (Call.application (.listBy discovererId))) :=
  fun _ _ resembles =>
    ⟨⟨_, _, rfl, rfl, resembles.applications.ownedBy_ids discovererId⟩, resembles⟩

theorem parallel_listEndpoints (discovererId : String) :
    Parallel supply other
      (fun reply twin => ∃ owned counterparts, reply = .ok owned ∧ twin = .ok counterparts ∧
        owned.map Endpoint.id = counterparts.map Endpoint.id)
      (Program.ask (S := Calls) (Call.endpoint (.listBy discovererId)))
      (Program.ask (S := Calls) (Call.endpoint (.listBy discovererId))) :=
  fun _ _ resembles =>
    ⟨⟨_, _, rfl, rfl, resembles.endpoints.ownedBy_ids discovererId⟩, resembles⟩

/-- Runs that resemble each other reconcile registries alike. -/
theorem parallel_reconcile (resemble : first.Resembles second) (now nowThere : Timestamp)
    (results : List ResultRecord) :
    Parallel supply other Eq (reconcile first now results) (reconcile second nowThere results) := by
  unfold reconcile
  rw [resemble.discovererId]
  apply (parallel_listApplications second.discovererId).bind
  rintro _ _ ⟨applications, applicationsThere, rfl, rfl, sameApplications⟩
  apply (parallel_listEndpoints second.discovererId).bind
  rintro _ _ ⟨endpoints, endpointsThere, rfl, rfl, sameEndpoints⟩
  dsimp only
  rw [sameApplications, sameEndpoints]
  apply (parallel_writeCandidates resemble _ _ _ _).bind
  rintro written _ rfl
  apply (parallel_loseApplications resemble now nowThere _ _).bind
  rintro counted _ rfl
  apply (parallel_loseEndpoints now nowThere _ _).bind
  rintro counted _ rfl
  exact parallel_pure _

/-! ## Batches -/

/-- What a reconciliation depends on beside its batch and the registry: the names of the
generations that it writes, and the time. -/
structure Occasion where
  supply : Nat → String
  now : Timestamp

/-- The registry after a batch was reconciled on some occasion. -/
def reconciled (discovererId : String) (attempts : Nat) (contents : Contents)
    (delivered : Occasion × List ResultRecord) : Contents :=
  ((reconcileBatch discovererId attempts delivered.1.now delivered.2).run
    (Contents.handler delivered.1.supply) contents).2

/-- The registry after batches were reconciled one after the other, from an empty one. -/
def replay (discovererId : String) (attempts : Nat)
    (history : List (Occasion × List ResultRecord)) : Contents :=
  history.foldl (reconciled discovererId attempts) {}

theorem undated_contextOf (now nowThere : Timestamp) (batch : List ResultRecord) :
    (contextOf now batch).undated = (contextOf nowThere batch).undated := by
  unfold contextOf
  cases batch.reverse.findSome? fun record => record.info.bind Model.BatchInfo.context with
  | none => rfl
  | some context => rfl

theorem Contents.Resembles.reconciled {left right : Contents} (resembles : left.Resembles right)
    (discovererId : String) (attempts : Nat) (occasion occasionThere : Occasion)
    (batch : List ResultRecord) :
    (reconciled discovererId attempts left (occasion, batch)).Resembles
      (reconciled discovererId attempts right (occasionThere, batch)) := by
  have runs : Run.Resembles ⟨discovererId, contextOf occasion.now batch, attempts⟩
      ⟨discovererId, contextOf occasionThere.now batch, attempts⟩ :=
    ⟨rfl, undated_contextOf _ _ batch⟩
  exact (parallel_reconcile runs occasion.now occasionThere.now batch resembles).2

/-- On whatever occasions batches are reconciled, the registry is the same but for dates. -/
theorem undated_replay (discovererId : String) (attempts : Nat)
    {history retold : List (Occasion × List ResultRecord)}
    (same : history.map Prod.snd = retold.map Prod.snd) :
    (replay discovererId attempts history).undated =
      (replay discovererId attempts retold).undated := by
  suffices resembles : ∀ left right : Contents, left.Resembles right →
      (history.foldl (reconciled discovererId attempts) left).Resembles
        (retold.foldl (reconciled discovererId attempts) right) from
    (resembles {} {} Contents.resembles_empty).undated_eq
  induction history generalizing retold with
  | nil =>
      have none : retold = [] := List.map_eq_nil_iff.mp same.symm
      subst none
      exact fun _ _ resembles => resembles
  | cons delivered rest ih =>
      obtain ⟨again, later, rfl, sameBatch, sameRest⟩ := List.map_eq_cons_iff.mp same.symm
      rcases delivered with ⟨occasion, batch⟩
      rcases again with ⟨occasionThere, _⟩
      cases sameBatch
      intro left right resembles
      exact ih sameRest.symm _ _
        (resembles.reconciled discovererId attempts occasion occasionThere batch)

end FieldSurvey.Registry
