import FieldSurvey.Proofs.Probe.Sequence

/-!
# Probes that are answered as they come

How the probe of a target answers is of no account until it comes to its end.  So whatever wakes
the pool of a scan, with whichever verdict, is the next point of a course of the scan.
-/

namespace FieldSurvey.Probe

variable {τ : Type}

/-- The targets that reports tell to be found. -/
def foundBy (reports : List (Report τ)) : List τ :=
  reports.filterMap fun
    | .found target _ => some target
    | .progress _ => none

/-! ## Scripts -/

namespace Trial

variable (trial : Trial τ)

/-- The trial with other answers. -/
def withScript (script : Nat → Rehearsal.ProbeScript) : Trial τ :=
  { trial with script }

/-- The trial in which the probe at a position answers at once. -/
def answering (position : Nat) (verdict : Verdict) : Trial τ :=
  trial.withScript fun other =>
    if other = position then { verdict, delay := 0 } else trial.script other

theorem verdict_answering (position : Nat) (verdict : Verdict) :
    (trial.answering position verdict).verdict position = verdict := by
  simp [Trial.verdict, answering, withScript, Rehearsal.ProbeScript.verdictWithin]

/-- A turn is told by the answers of the probes that have come to their end in it. -/
theorem turn_withScript (script : Nat → Rehearsal.ProbeScript) (occasion : Occasion)
    (cancels : Bool) (course : Course τ)
    (same : ∀ position ∈ settledIn (trial.turn occasion cancels course).log,
      script position = trial.script position) :
    (trial.withScript script).turn occasion cancels course =
      trial.turn occasion cancels course := by
  have heeds : course.pool.heed ((trial.withScript script).happening occasion) =
      course.pool.heed (trial.happening occasion) := by
    cases occasion with
    | ticked => rfl
    | noticed => rfl
    | settled position =>
        cases here : course.pool.inFlight.lookup position with
        | none => simp [Trial.happening, Pool.heed, Pool.settle, here]
        | some target =>
            have ended :
                position ∈ settledIn (trial.turn (.settled position) cancels course).log := by
              simp [Trial.turn, Trial.proceed, Trial.wake, Trial.settledNotes, here, settledIn]
            have agree := same position ended
            simp only [Trial.happening, Trial.verdict, withScript, agree]
  simp only [Trial.turn, Trial.wake, heeds]
  rfl

end Trial

namespace Trial.Reaches

variable {trial : Trial τ} {course : Course τ}

/-- A course is reached whatever the probes answer that have not come to their end in it. -/
theorem withScript (reached : trial.Reaches course) {script : Nat → Rehearsal.ProbeScript}
    (same : ∀ position ∈ settledIn course.log, script position = trial.script position) :
    (trial.withScript script).Reaches course := by
  induction reached with
  | begun cancels => exact .begun cancels
  | @turned course _ busy occasion cancels inductionHypothesis =>
      have earlier := RunsForever.settledIn_prefix_turn trial occasion cancels course
      rw [← trial.turn_withScript script occasion cancels course same]
      exact .turned (inductionHypothesis fun position member =>
        same position (earlier.subset member)) busy occasion cancels

/-- The probe in flight at a position can still answer in any way. -/
theorem answering (reached : trial.Reaches course) {position : Nat}
    (flies : position ∈ course.pool.inFlight.map Prod.fst) (verdict : Verdict) :
    (trial.answering position verdict).Reaches course := by
  refine reached.withScript fun other ended => if_neg ?_
  -- a position is either in flight or has come to its end
  rintro rfl
  have apart := reached.sound.resolved.nodup_iff.mpr List.nodup_range
  exact (List.nodup_append.mp apart).2.2 other ended other flies rfl

end Trial.Reaches

/-! ## Turns -/

namespace Pool

/-- A pool that is cancelled stays so. -/
theorem proceed_or (targets : Targets τ) (isCancelled : Bool) (pool : Pool τ) :
    pool.proceed targets (pool.isCancelled || isCancelled) = pool.proceed targets isCancelled := by
  unfold proceed
  rw [← Bool.or_assoc, Bool.or_self]

theorem next_or (targets : Targets τ) (isCancelled : Bool) (happening : Happening)
    (pool : Pool τ) :
    pool.next targets (pool.isCancelled || isCancelled) happening =
      pool.next targets isCancelled happening := by
  rw [next_eq, next_eq, ← (heeds_heed happening pool).isCancelled, proceed_or]

end Pool

theorem foundIn_proceeded (isCancelled : Bool) (taken : List (Nat × τ)) :
    foundIn (.proceeded isCancelled :: taken.map fun entry => .issued entry.1 entry.2) = [] := by
  simp [foundIn, List.filterMap_map]

/-- What is reported in a turn comes to what was reported before. -/
theorem reported_turn (trial : Trial τ) (occasion : Occasion) (cancels : Bool)
    (course : Course τ) :
    (trial.turn occasion cancels course).reported =
      course.reported ++ foundBy (course.pool.heed (trial.happening occasion)).2 := by
  have settled : foundIn (Trial.settledNotes course.pool occasion) = [] := by
    cases occasion with
    | ticked => rfl
    | noticed => rfl
    | settled position =>
        simp only [Trial.settledNotes]
        split <;> rfl
  have found (reports : List (Report τ)) : foundIn (reports.map .reported) = foundBy reports := by
    rw [foundIn, foundBy, List.filterMap_map]
    refine List.filterMap_congr fun report _ => ?_
    cases report <;> rfl
  simp only [Course.reported, Trial.turn, Trial.proceed, Trial.wake, foundIn_append, settled, found,
    foundIn_proceeded, List.nil_append, List.append_nil]

/-- Whatever happens to a pool is an occasion of its trial, once its probes answer accordingly. -/
theorem Trial.Reaches.exists_occasion {trial : Trial τ} {course : Course τ}
    (reached : trial.Reaches course) (happening : Pool.Happening) :
    ∃ (other : Trial τ) (occasion : Occasion), other.scan = trial.scan ∧ other.Reaches course ∧
      course.pool.heed (other.happening occasion) = course.pool.heed happening := by
  cases happening with
  | ticked => exact ⟨trial, .ticked, rfl, reached, rfl⟩
  | noticed => exact ⟨trial, .noticed, rfl, reached, rfl⟩
  | settled position verdict =>
      cases here : course.pool.inFlight.lookup position with
      | none =>
          refine ⟨trial, .settled position, rfl, reached, ?_⟩
          simp [Trial.happening, Pool.heed, Pool.settle, here]
      | some target =>
          have flies : position ∈ course.pool.inFlight.map Prod.fst := by
            obtain ⟨earlier, later, inFlight, -⟩ := List.lookup_eq_some_iff.mp here
            simp [inFlight]
          refine ⟨trial.answering position verdict, .settled position, rfl,
            reached.answering flies verdict, ?_⟩
          rw [Trial.happening, trial.verdict_answering]

/-! ## Scans -/

namespace Scan

variable {scan : Scan τ}

/-- A pool that begins is at a point of a course. -/
theorem takes_begun {sequence : List τ}
    (lists : scan.targets = fun position => sequence[position]?) (isCancelled : Bool) :
    ∃ course, scan.Takes course ∧
      course.pool = (Pool.start scan.config scan.total).proceed scan.targets isCancelled ∧
      course.isCancelled = isCancelled ∧ course.reported = [] := by
  let trial : Trial τ := { scan, sequence, targets_eq := lists, script := fun _ => {} }
  exact ⟨trial.proceed isCancelled trial.fresh, ⟨trial, rfl, .begun isCancelled⟩, rfl, rfl,
    foundIn_proceeded _ _⟩

/-- Whatever happens to a pool at a point of a course, and whether or not its scan is cancelled, it
comes to the next point of a course. -/
theorem Takes.next {course : Course τ} (takes : scan.Takes course)
    (busy : course.pool.isDone = false) (isCancelled : Bool) (happening : Pool.Happening) :
    ∃ further, scan.Takes further ∧
      further.pool = (course.pool.next scan.targets isCancelled happening).1 ∧
      further.isCancelled = (course.isCancelled || isCancelled) ∧
      further.reported =
        course.reported ++ foundBy (course.pool.next scan.targets isCancelled happening).2 := by
  obtain ⟨trial, rfl, reached⟩ := takes
  obtain ⟨other, occasion, same, reaches, heeds⟩ := reached.exists_occasion happening
  have stays := reached.sound.isCancelled
  refine ⟨other.turn occasion isCancelled course,
    ⟨other, same, reaches.turned busy occasion isCancelled⟩, ?_, rfl, ?_⟩
  · rw [other.pool_turn, Pool.next_eq, heeds, ← Pool.next_eq, ← stays, Pool.next_or, same]
  · rw [reported_turn, heeds, Pool.next_eq]

end Scan

end FieldSurvey.Probe
