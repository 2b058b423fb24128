import FieldSurvey.Proofs.Registry.Intent
import FieldSurvey.Registry.Reconciliation

/-!
# Writing candidates undisturbed

What a reconciliation does when no call of its stores fails and nobody else writes.
A candidate is added where nothing stands, revised where the discoverer's own entity
stands, and skipped where somebody else's does; it is counted accordingly.
-/

namespace FieldSurvey.Registry

open Model (Application Endpoint Registration)
open Time (Timestamp)

variable {supply : Nat → String}

@[simp]
theorem run_onApplications {β : Type} (program : Program (StoreSignature Application) β)
    (contents : Contents) :
    (onApplications program).run (Contents.handler supply) contents =
      ((program.run (Store.handler supply) contents.applications).1,
        { contents with
          applications := (program.run (Store.handler supply) contents.applications).2 }) :=
  Program.run_translate Contents.applications
    (fun applications contents => { contents with applications })
    (fun _ _ => rfl) (fun _ => rfl) (fun _ _ _ => rfl) (fun _ _ => rfl) program contents

@[simp]
theorem run_onEndpoints {β : Type} (program : Program (StoreSignature Endpoint) β)
    (contents : Contents) :
    (onEndpoints program).run (Contents.handler supply) contents =
      ((program.run (Store.handler supply) contents.endpoints).1,
        { contents with
          endpoints := (program.run (Store.handler supply) contents.endpoints).2 }) :=
  Program.run_translate Contents.endpoints
    (fun endpoints contents => { contents with endpoints })
    (fun _ _ => rfl) (fun _ => rfl) (fun _ _ _ => rfl) (fun _ _ => rfl) program contents

/-! ## Changes keep the identity of an entity -/

theorem keepsIdentity_refreshedApplication (run : Run) (seen : Application) :
    KeepsIdentity (refreshedApplication run seen) := by
  intro current entity changed
  obtain ⟨-, rfl⟩ := refreshedApplication_eq_some_iff.mp changed
  exact ⟨rfl, rfl⟩

theorem keepsIdentity_refreshedEndpoint (seen : Endpoint) :
    KeepsIdentity (refreshedEndpoint seen) := by
  intro current entity changed
  obtain ⟨-, rfl⟩ := refreshedEndpoint_eq_some_iff.mp changed
  exact ⟨rfl, rfl⟩

theorem keepsIdentity_lostApplication (run : Run) (now : Timestamp) :
    KeepsIdentity (lostApplication run now) := by
  intro current entity changed
  obtain ⟨-, rfl⟩ := lostApplication_eq_some_iff.mp changed
  exact ⟨rfl, rfl⟩

theorem keepsIdentity_lostEndpoint (now : Timestamp) : KeepsIdentity (lostEndpoint now) := by
  intro current entity changed
  obtain ⟨-, rfl⟩ := lostEndpoint_eq_some_iff.mp changed
  exact ⟨rfl, rfl⟩

/-! ## What was seen is found, and what was missed is lost -/

theorem isLost_refreshedApplication {run : Run} {seen former entity : Application}
    (changed : refreshedApplication run seen former = some entity) : entity.isLost = false := by
  obtain ⟨-, rfl⟩ := refreshedApplication_eq_some_iff.mp changed
  rfl

theorem isLost_refreshedEndpoint {seen former entity : Endpoint}
    (changed : refreshedEndpoint seen former = some entity) : entity.isLost = false := by
  obtain ⟨-, rfl⟩ := refreshedEndpoint_eq_some_iff.mp changed
  rfl

theorem isLost_lostApplication {run : Run} {now : Timestamp} {former entity : Application}
    (changed : lostApplication run now former = some entity) : entity.isLost := by
  obtain ⟨-, rfl⟩ := lostApplication_eq_some_iff.mp changed
  rfl

theorem isLost_lostEndpoint {now : Timestamp} {former entity : Endpoint}
    (changed : lostEndpoint now former = some entity) : entity.isLost := by
  obtain ⟨-, rfl⟩ := lostEndpoint_eq_some_iff.mp changed
  rfl

/-! ## Counting -/

/-- What becomes of an entity that a run has seen. -/
inductive Verdict where
  | added
  | updated
  | unchanged
  | skipped
  deriving DecidableEq

/-- The verdict on an entity, by what stands in its place. -/
def verdict {α : Type} [Entity α] (discovererId : String) (revise : α → Option α) :
    Option α → Verdict
  | none => .added
  | some stored =>
    if Entity.discovererId stored = some discovererId then
      if (revise stored).isSome then .updated else .unchanged
    else .skipped

/-- Counts a verdict. -/
def Summary.record (summary : Summary) : Verdict → Summary
  | .added => { summary with added := summary.added + 1 }
  | .updated => { summary with updated := summary.updated + 1 }
  | .unchanged => { summary with unchanged := summary.unchanged + 1 }
  | .skipped => { summary with skipped := summary.skipped + 1 }

/-- Counts of verdicts add up in any order. -/
theorem foldl_record (verdicts : List Verdict) (summary : Summary) :
    verdicts.foldl Summary.record summary =
      { summary with
        added := summary.added + verdicts.count .added
        updated := summary.updated + verdicts.count .updated
        unchanged := summary.unchanged + verdicts.count .unchanged
        skipped := summary.skipped + verdicts.count .skipped } := by
  induction verdicts generalizing summary with
  | nil => rfl
  | cons first rest ih =>
      rw [List.foldl_cons, ih]
      cases first <;> simp [Summary.record] <;> omega

/-- What is counted of a revision that was to make an entity lost. -/
theorem countLost_revised {α : Type} [Entity α] (store : Store α) (id : String)
    (change : α → Option α) (summary : Summary) :
    countLost (store.revised supply id change).1 summary =
      { summary with
        lost := summary.lost + if ((store.get? id).bind change).isSome then 1 else 0 } := by
  unfold Store.revised
  cases found : store.get? id with
  | none => simp [countLost]
  | some current => cases changed : change current <;> simp [countLost, changed]

/-! ## One candidate -/

/-- Whether the discoverer was told that it owns what stands under an id. -/
def Announces {α : Type} [Entity α] (store : Store α) (discovererId : String)
    (listed : List String) (id : String) : Prop :=
  id ∈ listed ↔ ∃ stored, store.get? id = some stored ∧
    Entity.discovererId stored = some discovererId

theorem run_addApplication (run : Run) (seen : Application) (summary : Summary)
    (contents : Contents) :
    (addApplication run seen summary).run (Contents.handler supply) contents =
      match contents.applications.get? seen.applicationId with
      | none =>
        ((.written, { summary with added := summary.added + 1 }),
          { contents with
            applications := (contents.applications.write supply (newApplication run seen)).2 })
      | some _ => ((.skipped, { summary with skipped := summary.skipped + 1 }), contents) := by
  unfold addApplication
  simp only [Program.bind_eq, Program.run_bind]
  cases found : contents.applications.get? seen.applicationId with
  | none =>
      have free : contents.applications.get? (Entity.id (newApplication run seen)) = none := found
      simp [Program.ask, free]
  | some stored =>
      have taken : contents.applications.get? (Entity.id (newApplication run seen)) =
        some stored := found
      simp [Program.ask, taken]

theorem run_addEndpoint (seen : Endpoint) (summary : Summary) (contents : Contents) :
    (addEndpoint seen summary).run (Contents.handler supply) contents =
      match contents.endpoints.get? seen.id with
      | none =>
        ({ summary with added := summary.added + 1 },
          { contents with
            endpoints := (contents.endpoints.write supply (newEndpoint seen)).2 })
      | some _ => ({ summary with skipped := summary.skipped + 1 }, contents) := by
  unfold addEndpoint
  simp only [Program.bind_eq, Program.run_bind]
  cases found : contents.endpoints.get? seen.id with
  | none =>
      have free : contents.endpoints.get? (Entity.id (newEndpoint seen)) = none := found
      simp [Program.ask, free]
  | some stored =>
      have taken : contents.endpoints.get? (Entity.id (newEndpoint seen)) = some stored := found
      simp [Program.ask, taken]

variable (supply) in
/-- The effect of writing a candidate application. -/
theorem run_writeApplication {contents : Contents} (kept : contents.applications.WellKept)
    (run : Run) (listed : List String) (seen : Application) (summary : Summary)
    (announced : Announces contents.applications run.discovererId listed seen.applicationId) :
    (writeApplication run (listed.contains seen.applicationId) seen summary).run
        (Contents.handler supply) contents =
      ((if Store.IsOpen run.discovererId (contents.applications.get? seen.applicationId) then
          .written else .skipped,
        summary.record (verdict run.discovererId (refreshedApplication run seen)
          (contents.applications.get? seen.applicationId))),
        { contents with
          applications := contents.applications.upserted supply run.discovererId
            (newApplication run seen) (refreshedApplication run seen) seen.applicationId }) := by
  cases found : contents.applications.get? seen.applicationId with
  | none =>
      have unlisted : listed.contains seen.applicationId = false := by
        simpa [Announces, found] using announced
      rw [unlisted]
      simp [writeApplication, run_addApplication, found, Summary.record, verdict, Store.upserted]
  | some stored =>
      by_cases owned : Entity.discovererId stored = some run.discovererId
      · have isListed : listed.contains seen.applicationId = true := by
          simpa [Announces, found, owned] using announced
        rw [isListed]
        simp only [writeApplication, if_true, Program.bind_eq, Program.run_bind,
          run_onApplications,
          Store.run_revise kept _ _ (keepsIdentity_refreshedApplication run seen)]
        cases changed : refreshedApplication run seen stored <;>
          simp [Store.revised, found, changed, Summary.record, verdict, owned,
            Store.upserted]
      · have unlisted : listed.contains seen.applicationId = false := by
          simpa [Announces, found, owned] using announced
        rw [unlisted]
        simp [writeApplication, run_addApplication, found, Summary.record, verdict, owned,
          Store.upserted]

variable (supply) in
/-- The effect of writing a candidate endpoint. -/
theorem run_writeEndpoint {contents : Contents} (kept : contents.endpoints.WellKept)
    (run : Run) (listed : List String) (seen : Endpoint) (summary : Summary)
    (announced : Announces contents.endpoints run.discovererId listed seen.id) :
    (writeEndpoint run (listed.contains seen.id) seen summary).run
        (Contents.handler supply) contents =
      (summary.record (verdict run.discovererId (refreshedEndpoint seen)
          (contents.endpoints.get? seen.id)),
        { contents with
          endpoints := contents.endpoints.upserted supply run.discovererId (newEndpoint seen)
            (refreshedEndpoint seen) seen.id }) := by
  cases found : contents.endpoints.get? seen.id with
  | none =>
      have unlisted : listed.contains seen.id = false := by
        simpa [Announces, found] using announced
      rw [unlisted]
      simp [writeEndpoint, run_addEndpoint, found, Summary.record, verdict, Store.upserted]
  | some stored =>
      by_cases owned : Entity.discovererId stored = some run.discovererId
      · have isListed : listed.contains seen.id = true := by
          simpa [Announces, found, owned] using announced
        rw [isListed]
        simp only [writeEndpoint, if_true, Program.bind_eq, Program.run_bind, run_onEndpoints,
          Store.run_revise kept _ _ (keepsIdentity_refreshedEndpoint seen)]
        cases changed : refreshedEndpoint seen stored <;>
          simp [Store.revised, found, changed, Summary.record, verdict, owned, Store.upserted]
      · have unlisted : listed.contains seen.id = false := by
          simpa [Announces, found, owned] using announced
        rw [unlisted]
        simp [writeEndpoint, run_addEndpoint, found, Summary.record, verdict, owned,
          Store.upserted]

end FieldSurvey.Registry
