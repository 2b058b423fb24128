import FieldSurvey.Registry.Calls
import FieldSurvey.Registry.Candidate
import FieldSurvey.Registry.Revision

/-!
# Reconciliation

A reconciliation brings the registry in line with the batch of one run.  What
the run has seen is added or found again; what the discoverer owns and the run
has not seen becomes lost.  Nothing is removed, and what another discoverer owns
is not written.  A write that fails is counted and does not stop the others.
-/

namespace FieldSurvey.Registry

open Model (Application Endpoint Registration ResultRecord Context)
open Time (Timestamp)

/-- Counts over the applications and endpoints of a reconciliation. -/
structure Summary where
  /-- entities that were added -/
  added : Nat := 0
  /-- entities that were written because they changed or were found again -/
  updated : Nat := 0
  /-- entities that were found again as they were -/
  unchanged : Nat := 0
  /-- entities that became lost -/
  lost : Nat := 0
  /-- results without uri, or of which another discoverer owns the entity -/
  skipped : Nat := 0
  /-- entities whose write failed -/
  failed : Nat := 0
  deriving DecidableEq, Repr

/-- What became of a candidate application. -/
inductive Outcome where
  | written
  /-- another discoverer owns it -/
  | skipped
  | failed
  deriving DecidableEq

/-- On whose behalf a reconciliation runs, and how often it tries a write. -/
structure Run where
  discovererId : String
  context : Context
  attempts : Nat

/-- A write is tried three times if nothing else is asked for. -/
def Run.defaultAttempts : Nat := 3

/-- The stored application as the run has seen it. -/
def refreshedApplication (run : Run) (seen stored : Application) : Option Application :=
  let fresh := (stored.rediscovered seen).found
  if fresh = stored then none else some { fresh with updated := some run.context }

@[simp]
theorem refreshedApplication_eq_none_iff {run : Run} {seen stored : Application} :
    refreshedApplication run seen stored = none ↔ (stored.rediscovered seen).found = stored := by
  simp [refreshedApplication]

theorem refreshedApplication_eq_some_iff {run : Run} {seen stored entity : Application} :
    refreshedApplication run seen stored = some entity ↔
      (stored.rediscovered seen).found ≠ stored ∧
        { (stored.rediscovered seen).found with updated := some run.context } = entity := by
  simp [refreshedApplication]

/-- The application as it is added. -/
def newApplication (run : Run) (seen : Application) : Application :=
  { seen.found with created := some run.context, updated := none, generationId := none }

/-- Adds an application that the discoverer does not own yet. -/
def addApplication (run : Run) (seen : Application) (summary : Summary) :
    Program Calls (Outcome × Summary) := do
  match ← Program.ask (S := Calls) (Call.application (.add (newApplication run seen))) with
  | .ok _ => return (.written, { summary with added := summary.added + 1 })
  | .error (.conflict _) => return (.skipped, { summary with skipped := summary.skipped + 1 })
  | .error _ => return (.failed, { summary with failed := summary.failed + 1 })

/-- Writes a candidate application.  One that was listed but is gone by now is
added again. -/
def writeApplication (run : Run) (listed : Bool) (seen : Application) (summary : Summary) :
    Program Calls (Outcome × Summary) := do
  if listed then
    let revision ← onApplications
      (Revision.revise seen.applicationId run.attempts (refreshedApplication run seen))
    match revision.result with
    | .ok (some _) =>
      if revision.changed then return (.written, { summary with updated := summary.updated + 1 })
      else return (.written, { summary with unchanged := summary.unchanged + 1 })
    | .ok none => addApplication run seen summary
    | .error _ => return (.failed, { summary with failed := summary.failed + 1 })
  else addApplication run seen summary

/-- The stored endpoint as the run has seen it. -/
def refreshedEndpoint (seen stored : Endpoint) : Option Endpoint :=
  let fresh := (stored.rediscovered seen).found
  if fresh = stored then none else some fresh

@[simp]
theorem refreshedEndpoint_eq_none_iff {seen stored : Endpoint} :
    refreshedEndpoint seen stored = none ↔ (stored.rediscovered seen).found = stored := by
  simp [refreshedEndpoint]

theorem refreshedEndpoint_eq_some_iff {seen stored entity : Endpoint} :
    refreshedEndpoint seen stored = some entity ↔
      (stored.rediscovered seen).found ≠ stored ∧ (stored.rediscovered seen).found = entity := by
  simp [refreshedEndpoint]

/-- The endpoint as it is added. -/
def newEndpoint (seen : Endpoint) : Endpoint :=
  { seen.found with generationId := none }

/-- Adds an endpoint that the discoverer does not own yet. -/
def addEndpoint (seen : Endpoint) (summary : Summary) : Program Calls Summary := do
  match ← Program.ask (S := Calls) (Call.endpoint (.add (newEndpoint seen))) with
  | .ok _ => return { summary with added := summary.added + 1 }
  | .error (.conflict _) => return { summary with skipped := summary.skipped + 1 }
  | .error _ => return { summary with failed := summary.failed + 1 }

/-- Writes a candidate endpoint.  One that was listed but is gone by now is
added again. -/
def writeEndpoint (run : Run) (listed : Bool) (seen : Endpoint) (summary : Summary) :
    Program Calls Summary := do
  if listed then
    let revision ← onEndpoints
      (Revision.revise seen.id run.attempts (refreshedEndpoint seen))
    match revision.result with
    | .ok (some _) =>
      if revision.changed then return { summary with updated := summary.updated + 1 }
      else return { summary with unchanged := summary.unchanged + 1 }
    | .ok none => addEndpoint seen summary
    | .error _ => return { summary with failed := summary.failed + 1 }
  else addEndpoint seen summary

/-- The ids that the discoverer owned when the run began. -/
structure Listed where
  applications : List String
  endpoints : List String

/-- The ids that the run has accounted for, which therefore cannot be lost. -/
structure Seen where
  applications : List String := []
  endpoints : List String := []

/-- Writes the endpoints of a candidate. -/
def writeEndpoints (run : Run) (listed : Listed) :
    List Endpoint → Seen → Summary → Program Calls (Seen × Summary)
  | [], seen, summary => return (seen, summary)
  | endpoint :: rest, seen, summary => do
    let summary ← writeEndpoint run (listed.endpoints.contains endpoint.id) endpoint summary
    writeEndpoints run listed rest
      { seen with endpoints := seen.endpoints ++ [endpoint.id] } summary

/-- Writes the candidates.  The endpoints of a skipped application are skipped
with it.  If a new application cannot be added its endpoints are left alone,
and they do not become lost either. -/
def writeCandidates (run : Run) (listed : Listed) :
    List Registration → Seen → Summary → Program Calls (Seen × Summary)
  | [], seen, summary => return (seen, summary)
  | candidate :: rest, seen, summary => do
    let id := candidate.application.applicationId
    let isListed := listed.applications.contains id
    let (outcome, summary) ← writeApplication run isListed candidate.application summary
    if outcome = .skipped then
      writeCandidates run listed rest seen
        { summary with skipped := summary.skipped + candidate.endpoints.length }
    else if outcome = .failed ∧ !isListed then
      writeCandidates run listed rest
        { seen with endpoints := seen.endpoints ++ candidate.endpoints.map Endpoint.id } summary
    else do
      let (seen, summary) ← writeEndpoints run listed candidate.endpoints
        { seen with applications := seen.applications ++ [id] } summary
      writeCandidates run listed rest seen summary

/-- Counts a revision that was to make an entity lost. -/
def countLost {α : Type} (revision : Revision α) (summary : Summary) : Summary :=
  match revision.result with
  | .ok _ =>
    if revision.changed then { summary with lost := summary.lost + 1 } else summary
  | .error _ => { summary with failed := summary.failed + 1 }

/-- The stored application as lost, unless it is lost already. -/
def lostApplication (run : Run) (now : Timestamp) (stored : Application) : Option Application :=
  if stored.isLost then none else some { stored.lost now with updated := some run.context }

/-- The stored endpoint as lost, unless it is lost already. -/
def lostEndpoint (now : Timestamp) (stored : Endpoint) : Option Endpoint :=
  if stored.isLost then none else some (stored.lost now)

@[simp]
theorem lostApplication_eq_none_iff {run : Run} {now : Timestamp} {stored : Application} :
    lostApplication run now stored = none ↔ stored.isLost := by
  simp [lostApplication]

theorem lostApplication_eq_some_iff {run : Run} {now : Timestamp} {stored entity : Application} :
    lostApplication run now stored = some entity ↔ stored.isLost = false ∧
      { stored with visibility := .lost, notSeenSince := some now, updated := some run.context } =
        entity := by
  cases lost : stored.isLost <;> simp [lostApplication, Application.lost_of_not_isLost, lost]

@[simp]
theorem lostEndpoint_eq_none_iff {now : Timestamp} {stored : Endpoint} :
    lostEndpoint now stored = none ↔ stored.isLost := by
  simp [lostEndpoint]

theorem lostEndpoint_eq_some_iff {now : Timestamp} {stored entity : Endpoint} :
    lostEndpoint now stored = some entity ↔ stored.isLost = false ∧
      { stored with visibility := .lost, notSeenSince := some now } = entity := by
  cases lost : stored.isLost <;> simp [lostEndpoint, Endpoint.lost_of_not_isLost, lost]

/-- Makes applications lost. -/
def loseApplications (run : Run) (now : Timestamp) :
    List String → Summary → Program Calls Summary
  | [], summary => return summary
  | id :: rest, summary => do
    let revision ← onApplications (Revision.revise id run.attempts (lostApplication run now))
    loseApplications run now rest (countLost revision summary)

/-- Makes endpoints lost. -/
def loseEndpoints (run : Run) (now : Timestamp) :
    List String → Summary → Program Calls Summary
  | [], summary => return summary
  | id :: rest, summary => do
    let revision ← onEndpoints (Revision.revise id run.attempts (lostEndpoint now))
    loseEndpoints run now rest (countLost revision summary)

/-- The ids that were listed and not seen. -/
def missing (listed seen : List String) : List String :=
  listed.filter fun id => !seen.contains id

/-- Reconciles the registry with the batch of one run; `now` is the time from
which on entities that were not seen are lost.  It fails only if the entities
of the discoverer cannot be listed. -/
def reconcile (run : Run) (now : Timestamp) (results : List ResultRecord) :
    Program Calls (Except Fault Summary) := do
  let candidates := Candidates.ofBatch run.discovererId results
  match ← Program.ask (S := Calls) (Call.application (.listBy run.discovererId)) with
  | .error fault => return .error fault
  | .ok applications =>
    match ← Program.ask (S := Calls) (Call.endpoint (.listBy run.discovererId)) with
    | .error fault => return .error fault
    | .ok endpoints =>
      let listed : Listed :=
        { applications := applications.map Application.applicationId
          endpoints := endpoints.map Endpoint.id }
      let (seen, summary) ←
        writeCandidates run listed candidates.registrations {} { skipped := candidates.skipped }
      let summary ← loseApplications run now
        (missing listed.applications seen.applications) summary
      let summary ← loseEndpoints run now (missing listed.endpoints seen.endpoints) summary
      return .ok summary

end FieldSurvey.Registry
