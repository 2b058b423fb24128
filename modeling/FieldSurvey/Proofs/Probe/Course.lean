import FieldSurvey.Probe.Limit
import FieldSurvey.Rehearsal.Probing
import Mathlib.Data.List.Basic
import Mathlib.Order.Lattice

/-!
# Courses of a pool

A trial of a pool may take many courses: its probes come to an end in any order, progress
reports are due at any time, and somebody may cancel the scan at any time.  On every course the
log tells which targets were taken, whose probes have come to an end, and what was reported.
However the probes come out, the limit of the pool stays between a floor of at least one probe and
its maximum.
-/

/-! ## Bounds of a limit -/

namespace FieldSurvey.Probe

namespace Limit

/-- A limit between its floor, which is positive, and its maximum. -/
structure WithinBounds (limit : Limit) : Prop where
  floor_pos : 0 < limit.floor
  floor_le : limit.floor ≤ limit.current
  current_le : limit.current ≤ limit.most

namespace WithinBounds

variable {limit : Limit}

theorem current_pos (bounds : limit.WithinBounds) : 0 < limit.current :=
  lt_of_lt_of_le bounds.floor_pos bounds.floor_le

theorem start (most floor : Nat) : (Limit.start most floor).WithinBounds where
  floor_pos := by simp only [Limit.start]; omega
  floor_le := by simp only [Limit.start]; omega
  current_le := le_refl _

theorem record (bounds : limit.WithinBounds) (verdict : Verdict) :
    (limit.record verdict).WithinBounds := by
  have floor_le_most : limit.floor ≤ limit.most := bounds.floor_le.trans bounds.current_le
  unfold Limit.record
  split
  · exact bounds
  · exact
      { floor_pos := bounds.floor_pos
        floor_le := le_min (le_max_right _ _) floor_le_most
        current_le := min_le_right _ _ }

end WithinBounds

end Limit

end FieldSurvey.Probe

namespace FieldSurvey.Probe

variable {τ : Type}

/-! ## Waking and proceeding -/

namespace Pool

/-- A pool that is woken, before it proceeds. -/
def heed (happening : Happening) (pool : Pool τ) : Pool τ × List (Report τ) :=
  match happening with
  | .settled position verdict => pool.settle position verdict
  | .ticked => pool.tick
  | .noticed => (pool, [])

theorem next_eq (targets : Targets τ) (isCancelled : Bool) (happening : Happening)
    (pool : Pool τ) :
    pool.next targets isCancelled happening =
      ((pool.heed happening).1.proceed targets isCancelled, (pool.heed happening).2) := by
  cases happening <;> rfl

theorem isCancelled_fill (targets : Targets τ) (room : Nat) (pool : Pool τ) :
    (fill targets room pool).isCancelled = pool.isCancelled := by
  induction room generalizing pool with
  | zero => rfl
  | succ room ih =>
      unfold fill
      split
      · rfl
      · exact ih _

/-- A pool that proceeds takes notice of a cancellation. -/
theorem isCancelled_proceed (targets : Targets τ) (isCancelled : Bool) (pool : Pool τ) :
    (pool.proceed targets isCancelled).isCancelled = (pool.isCancelled || isCancelled) := by
  unfold proceed
  dsimp only
  split
  · rfl
  · exact isCancelled_fill _ _ _

/-- A step of a pool in which it takes no targets and no notice of a cancellation. -/
structure Heeds (before after : Pool τ) : Prop where
  issued : after.counters.issued = before.counters.issued
  isExhausted : after.isExhausted = before.isExhausted
  isCancelled : after.isCancelled = before.isCancelled

theorem Heeds.refl (pool : Pool τ) : Heeds pool pool :=
  ⟨rfl, rfl, rfl⟩

theorem heeds_settle (position : Nat) (verdict : Verdict) (pool : Pool τ) :
    Heeds pool (pool.settle position verdict).1 := by
  unfold settle
  split
  · exact .refl pool
  · dsimp only
    split <;> exact ⟨rfl, rfl, rfl⟩

theorem heeds_heed (happening : Happening) (pool : Pool τ) :
    Heeds pool (pool.heed happening).1 := by
  cases happening with
  | settled position verdict => exact heeds_settle position verdict pool
  | ticked => exact ⟨rfl, rfl, rfl⟩
  | noticed => exact .refl pool

/-- The next targets of a sequence with their positions, `room` at most. -/
def ahead (sequence : List τ) (room : Nat) (pool : Pool τ) : List (τ × Nat) :=
  ((sequence.drop pool.counters.issued).take room).zipIdx pool.counters.issued

theorem length_ahead (sequence : List τ) (room : Nat) (pool : Pool τ) :
    (pool.ahead sequence room).length = min room (sequence.length - pool.counters.issued) := by
  simp [Pool.ahead]

theorem zipIdx_take_append_ahead (sequence : List τ) (room : Nat) (pool : Pool τ)
    (within : pool.counters.issued ≤ sequence.length) :
    (sequence.take pool.counters.issued).zipIdx ++ pool.ahead sequence room =
      (sequence.take
        (pool.counters.issued + (pool.ahead sequence room).length)).zipIdx := by
  have start : 0 + (sequence.take pool.counters.issued).length = pool.counters.issued := by
    simp [within]
  have same : (sequence.drop pool.counters.issued).take (pool.ahead sequence room).length =
      (sequence.drop pool.counters.issued).take room := by
    rw [length_ahead, ← List.length_drop, ← List.take_eq_take_min]
  rw [List.take_add, List.zipIdx_append, start, same, Pool.ahead]

theorem map_snd_ahead (sequence : List τ) (room : Nat) (pool : Pool τ) :
    (pool.ahead sequence room).map Prod.snd =
      List.range' pool.counters.issued (pool.ahead sequence room).length := by
  simp [Pool.ahead]

theorem getElem?_of_mem_ahead {sequence : List τ} {room : Nat} {pool : Pool τ}
    {entry : τ × Nat} (member : entry ∈ pool.ahead sequence room) :
    sequence[entry.2]? = some entry.1 := by
  obtain ⟨target, position⟩ := entry
  obtain ⟨isLater, here⟩ := List.mk_mem_zipIdx_iff_le_and_getElem?_sub.mp member
  have within := (List.getElem?_eq_some_iff.mp here).1
  rw [List.getElem?_take_of_lt (by simp at within; omega), List.getElem?_drop] at here
  rwa [show pool.counters.issued + (position - pool.counters.issued) = position by omega] at here

/-- A pool takes the next targets of its sequence, and notices when there are too few. -/
theorem fill_eq (sequence : List τ) (room : Nat) (pool : Pool τ)
    (within : pool.counters.issued ≤ sequence.length) :
    pool.fill (fun position => sequence[position]?) room =
      { pool with
        inFlight := pool.inFlight ++ (pool.ahead sequence room).map Prod.swap
        counters := { pool.counters with
          issued := pool.counters.issued + (pool.ahead sequence room).length }
        isExhausted := pool.isExhausted ||
          decide (sequence.length < pool.counters.issued + room) } := by
  induction room generalizing pool with
  | zero => simp [fill, ahead, Nat.not_lt.mpr within]
  | succ room inductionHypothesis =>
      rcases Nat.lt_or_eq_of_le within with more | spent
      · have next : sequence[pool.counters.issued]? = some sequence[pool.counters.issued] :=
          List.getElem?_eq_getElem more
        have first : pool.ahead sequence (room + 1) =
            (sequence[pool.counters.issued], pool.counters.issued) ::
              ((sequence.drop (pool.counters.issued + 1)).take room).zipIdx
                (pool.counters.issued + 1) := by
          rw [ahead, List.drop_eq_getElem_cons more, List.take_succ_cons, List.zipIdx_cons]
        have shift : ∀ count, pool.counters.issued + 1 + count =
            pool.counters.issued + (count + 1) := by omega
        simp only [fill, next]
        rw [inductionHypothesis _ (Nat.succ_le_of_lt more), first]
        simp [ahead, shift]
      · have next : sequence[pool.counters.issued]? = none := by simp [spent]
        have nothing : pool.ahead sequence (room + 1) = [] := by simp [ahead, spent]
        have past : sequence.length < pool.counters.issued + (room + 1) := by omega
        simp [fill, next, nothing, past]

/-- How many more targets a pool takes before it waits again. -/
def room (isCancelled : Bool) (pool : Pool τ) : Nat :=
  if pool.isCancelled || isCancelled || pool.isExhausted then 0
  else pool.limit.current - pool.inFlight.length

theorem proceed_eq (sequence : List τ) (isCancelled : Bool) (pool : Pool τ)
    (within : pool.counters.issued ≤ sequence.length) :
    pool.proceed (fun position => sequence[position]?) isCancelled =
      { pool with
        inFlight := pool.inFlight ++ (pool.ahead sequence (pool.room isCancelled)).map Prod.swap
        counters := { pool.counters with
          issued := pool.counters.issued +
            (pool.ahead sequence (pool.room isCancelled)).length }
        isExhausted := pool.isExhausted ||
          decide (sequence.length < pool.counters.issued + pool.room isCancelled)
        isCancelled := pool.isCancelled || isCancelled } := by
  unfold proceed room
  by_cases idle : pool.isCancelled || isCancelled || pool.isExhausted
  · simp [idle, ahead, Nat.not_lt.mpr within]
  · simp only [idle]
    exact fill_eq sequence _ { pool with isCancelled := pool.isCancelled || isCancelled } within

end Pool

/-! ## Courses -/

/-- A scan of finitely many targets, and how the probe of the target at a position answers. -/
structure Trial (τ : Type) where
  scan : Scan τ
  sequence : List τ
  targets_eq : scan.targets = fun position => sequence[position]?
  script : Nat → Rehearsal.ProbeScript

/-- What a pool does. -/
inductive Note (τ : Type) where
  /-- it proceeds, and sees whether its scan is cancelled -/
  | proceeded (isCancelled : Bool)
  /-- a probe is issued -/
  | issued (position : Nat) (target : τ)
  /-- a probe has come to an end -/
  | settled (position : Nat)
  | reported (report : Report τ)

/-- The targets whose probes were issued, with their positions. -/
def issuedIn (log : List (Note τ)) : List (τ × Nat) :=
  log.filterMap fun
    | .issued position target => some (target, position)
    | _ => none

/-- The positions of the probes that have come to an end, the first one first. -/
def settledIn (log : List (Note τ)) : List Nat :=
  log.filterMap fun
    | .settled position => some position
    | _ => none

/-- The targets that were reported as found. -/
def foundIn (log : List (Note τ)) : List τ :=
  log.filterMap fun
    | .reported (.found target _) => some target
    | _ => none

/-- Nothing is issued once a pool proceeds and sees that its scan is cancelled. -/
def Restrained (log : List (Note τ)) : Prop :=
  ∀ earlier later, log = earlier ++ .proceeded true :: later → issuedIn later = []

/-- A point on the way of a pool. -/
structure Course (τ : Type) where
  pool : Pool τ
  /-- whether somebody has cancelled the scan -/
  isCancelled : Bool
  log : List (Note τ)

/-- What a waiting pool may be woken by. -/
inductive Occasion where
  | settled (position : Nat)
  | ticked
  | noticed

namespace Trial

variable (trial : Trial τ)

/-- The verdict on the probe at a position, which is given up after a while. -/
def verdict (position : Nat) : Verdict :=
  (trial.script position).verdictWithin trial.scan.config.timeout

/-- What happens to a pool on an occasion. -/
def happening : Occasion → Pool.Happening
  | .settled position => .settled position (trial.verdict position)
  | .ticked => .ticked
  | .noticed => .noticed

/-- The target at a position, if it answers in time that it is open. -/
def opened? (position : Nat) : Option τ :=
  if (trial.script position).verdict = .opened ∧
      (trial.script position).delay ≤ trial.scan.config.timeout then
    trial.sequence[position]?
  else none

/-- The pool before its first step. -/
def fresh : Course τ where
  pool := .start trial.scan.config trial.scan.total
  isCancelled := false
  log := []

/-- A pool proceeds; `cancels` says whether somebody has cancelled the scan in the meantime. -/
def proceed (cancels : Bool) (course : Course τ) : Course τ :=
  let isCancelled := course.isCancelled || cancels
  let pool := course.pool.proceed trial.scan.targets isCancelled
  let taken := pool.inFlight.drop course.pool.inFlight.length
  { pool
    isCancelled
    log := course.log ++ .proceeded isCancelled ::
      taken.map fun entry => .issued entry.1 entry.2 }

/-- The note on a probe that comes to an end. -/
def settledNotes (pool : Pool τ) : Occasion → List (Note τ)
  | .settled position =>
    if (pool.inFlight.lookup position).isSome then [.settled position] else []
  | _ => []

/-- A pool is woken. -/
def wake (occasion : Occasion) (course : Course τ) : Course τ :=
  let (pool, reports) := course.pool.heed (trial.happening occasion)
  { course with
    pool
    log := course.log ++ (settledNotes course.pool occasion ++ reports.map .reported) }

/-- What a pool does from one wait to the next. -/
def turn (occasion : Occasion) (cancels : Bool) (course : Course τ) : Course τ :=
  trial.proceed cancels (trial.wake occasion course)

/-- The points that a pool can reach.  A pool that is done goes no further. -/
inductive Reaches : Course τ → Prop
  | begun (cancels : Bool) : Reaches (trial.proceed cancels trial.fresh)
  | turned {course : Course τ} (reached : Reaches course) (busy : course.pool.isDone = false)
      (occasion : Occasion) (cancels : Bool) : Reaches (trial.turn occasion cancels course)

/-- A turn makes the pool take its next step. -/
theorem pool_turn (occasion : Occasion) (cancels : Bool) (course : Course τ) :
    (trial.turn occasion cancels course).pool =
      (course.pool.next trial.scan.targets (course.isCancelled || cancels)
        (trial.happening occasion)).1 := by
  rw [Pool.next_eq]
  rfl

end Trial

/-! ## Rehearsed scans -/

section Rehearsed

open Rehearsal (LoneScan Probing Waiting)

/-- The trial of a scan that runs alone, if its targets form a finite sequence. -/
def trialOf (lone : LoneScan τ) (sequence : List τ)
    (finite : lone.scan.targets = fun position => sequence[position]?) : Trial τ where
  scan := lone.scan
  sequence
  targets_eq := finite
  script := Rehearsal.scriptAt lone.scan lone.script

theorem isCancelled_pollWaiting (duration : Nat → Nat) (trigger : Option Nat) (now : Nat)
    (probing : Probing) (waiting : List Waiting) :
    (probing.pollWaiting duration trigger now true waiting).2.2.1 = true := by
  induction waiting generalizing probing with
  | nil => rfl
  | cons first rest inductionHypothesis =>
      unfold Probing.pollWaiting
      split
      · rfl
      · simp only [Bool.true_or]
        split
        · rfl
        · exact inductionHypothesis _

variable (lone : LoneScan τ) (sequence : List τ)
  (finite : lone.scan.targets = fun position => sequence[position]?)

theorem isCancelled_look (now : Nat) (pool : Pool τ) (probing : Probing) :
    (probing.look lone.scan lone.script lone.trigger now true pool).isCancelled = true := by
  have polled := isCancelled_pollWaiting
    (fun position => (Rehearsal.scriptAt lone.scan lone.script position).durationWithin
      lone.scan.config.timeout) lone.trigger now (probing.learn pool.counters.issued)
    (probing.learn pool.counters.issued).waiting
  dsimp only [Probing.look]
  split
  · exact polled
  · split
    · exact polled
    · split <;> exact polled

/-- Whatever happens to a pool that is looked at is an occasion of its trial. -/
theorem exists_occasion {now : Nat} {isCancelled : Bool} {pool : Pool τ} {probing : Probing}
    {happening : Pool.Happening}
    (happens : (probing.look lone.scan lone.script lone.trigger now isCancelled pool).happening =
      some happening) :
    ∃ occasion, happening = (trialOf lone sequence finite).happening occasion := by
  revert happens
  dsimp only [Probing.look]
  split
  · rintro ⟨⟩
    exact ⟨.settled _, rfl⟩
  · split
    · rintro ⟨⟩
      exact ⟨.ticked, rfl⟩
    · split
      · rintro ⟨⟩
        exact ⟨.noticed, rfl⟩
      · rintro ⟨⟩

theorem exists_reaches_runFrom (fuel now : Nat) (isCancelled : Bool) (pool : Pool τ)
    (probing : Probing) (seen : List (Nat × Rehearsal.ScanNote τ)) {course : Course τ}
    (reached : (trialOf lone sequence finite).Reaches course) (here : course.pool = pool)
    (known : course.isCancelled → isCancelled) :
    ∃ final, (trialOf lone sequence finite).Reaches final ∧
      (lone.runFrom fuel now isCancelled pool probing seen).outcome = final.pool.outcome := by
  induction fuel generalizing now isCancelled pool probing seen course with
  | zero => exact ⟨course, reached, by rw [here]; rfl⟩
  | succ fuel inductionHypothesis =>
      unfold LoneScan.runFrom
      split
      · exact ⟨course, reached, by rw [here]⟩
      · rename_i busy
        let look := probing.look lone.scan lone.script lone.trigger now
          (isCancelled || lone.cancelAt.any (· ≤ now)) pool
        have stillKnown : course.isCancelled → look.isCancelled := by
          intro cancelled
          simp only [look]
          rw [known cancelled, Bool.true_or]
          exact isCancelled_look lone now pool probing
        dsimp only
        split
        · rename_i happening happens
          rcases exists_occasion lone sequence finite happens with ⟨occasion, rfl⟩
          have waits : course.pool.isDone = false := by simpa [here] using busy
          have same : (course.isCancelled || look.isCancelled) = look.isCancelled := by
            cases cancelled : course.isCancelled with
            | true => exact (stillKnown cancelled).symm
            | false => rfl
          have next := (trialOf lone sequence finite).pool_turn occasion look.isCancelled course
          rw [same, here] at next
          refine inductionHypothesis _ _ _ _ _ (reached.turned waits occasion look.isCancelled)
            next ?_
          intro cancelled
          rwa [← same]
        · exact inductionHypothesis _ _ _ _ _ reached here stillKnown

/-- A scan that runs alone comes to the outcome of a point that its pool can reach. -/
theorem exists_reaches_run :
    ∃ final, (trialOf lone sequence finite).Reaches final ∧
      lone.run.outcome = final.pool.outcome :=
  exists_reaches_runFrom lone sequence finite _ _ _ _ _ _ (.begun _) rfl id

end Rehearsed

/-! ## Logs -/

@[simp]
theorem issuedIn_append (first second : List (Note τ)) :
    issuedIn (first ++ second) = issuedIn first ++ issuedIn second :=
  List.filterMap_append

@[simp]
theorem settledIn_append (first second : List (Note τ)) :
    settledIn (first ++ second) = settledIn first ++ settledIn second :=
  List.filterMap_append

@[simp]
theorem foundIn_append (first second : List (Note τ)) :
    foundIn (first ++ second) = foundIn first ++ foundIn second :=
  List.filterMap_append

/-- Restraint is kept by what is added to a log, as long as no more is issued. -/
theorem Restrained.append {first second : List (Note τ)} (restrained : Restrained first)
    (stopped : .proceeded true ∈ first → issuedIn second = []) (further : Restrained second) :
    Restrained (first ++ second) := by
  intro earlier later split
  rcases List.append_eq_append_iff.mp split with
    ⟨middle, -, inSecond⟩ | ⟨middle, inFirst, same⟩
  · exact further middle later inSecond
  · cases middle with
    | nil => exact further [] later (by simpa using same.symm)
    | cons note rest =>
        obtain ⟨rfl, rfl⟩ := List.cons.inj same
        change issuedIn (rest ++ second) = []
        rw [issuedIn_append, restrained earlier rest inFirst, stopped (by simp [inFirst]),
          List.append_nil]

end FieldSurvey.Probe
