import FieldSurvey.Proofs.Probe.Completion

/-!
# Limits and counters of a pool

A pool issues a probe only while fewer than its current limit are in flight, and waits only once
no room is left, or no targets are.  The limit keeps between the floor and the maximum of the
pool, and what the pool reports is what its log tells: how many probes were issued, how many
targets were found, and how many probes are in flight.
-/

namespace FieldSurvey.Probe

/-! ## The settings of a pool -/

namespace PoolConfig

/-- The settings of a pool that were made for a number of probes, with any time between two
reports. -/
inductive IsMade : PoolConfig → Prop
  | fixed (maxProbes : UInt64) (timeout : Nat) : IsMade (.fixed maxProbes timeout)
  | adaptive (maxProbes : UInt64) (percent : UInt32) (timeout : Nat) :
    IsMade (.adaptive maxProbes percent timeout)
  | withInterval {config : PoolConfig} (made : config.IsMade) (interval : Nat) :
    IsMade (config.withInterval interval)

theorem toNat_max (first second : UInt64) :
    (max first second).toNat = max first.toNat second.toNat := by
  change (if first ≤ second then second else first).toNat = _
  split <;> rename_i order <;> rw [UInt64.le_iff_toNat_le] at order <;> omega

theorem toNat_min (first second : UInt64) :
    (min first second).toNat = min first.toNat second.toNat := by
  change (if first ≤ second then first else second).toNat = _
  split <;> rename_i order <;> rw [UInt64.le_iff_toNat_le] at order <;> omega

/-- A pool has a floor of at least one probe, which is no more than its maximum. -/
theorem IsMade.bounds {config : PoolConfig} (made : config.IsMade) :
    1 ≤ config.minProbes.toNat ∧ config.minProbes.toNat ≤ config.maxProbes.toNat := by
  have one : (1 : UInt64).toNat = 1 := rfl
  induction made with
  | fixed maxProbes timeout =>
      simp only [PoolConfig.fixed, toNat_max, one]
      omega
  | adaptive maxProbes percent timeout =>
      simp only [PoolConfig.adaptive, withShare, toNat_min, toNat_max, one]
      omega
  | withInterval made interval ih => exact ih

end PoolConfig

namespace Limit

@[simp]
theorem most_record (limit : Limit) (verdict : Verdict) :
    (limit.record verdict).most = limit.most := by
  unfold record
  split <;> rfl

@[simp]
theorem floor_record (limit : Limit) (verdict : Verdict) :
    (limit.record verdict).floor = limit.floor := by
  unfold record
  split <;> rfl

end Limit

variable {τ : Type} {trial : Trial τ} {course : Course τ} {log : List (Note τ)}

/-! ## What a log tells -/

/-- How many probes are in flight after what a log tells. -/
def flying (log : List (Note τ)) : Nat :=
  (issuedIn log).length - (settledIn log).length

/-- The limit of a pool after what its log tells. -/
def Trial.limitAfter (trial : Trial τ) (log : List (Note τ)) : Limit :=
  (settledIn log).foldl (fun limit position => limit.record (trial.verdict position))
    (.start trial.scan.config.maxProbes.toNat trial.scan.config.minProbes.toNat)

/-- The counters that are reported. -/
def Report.counters : Report τ → Counters
  | found _ counters => counters
  | progress counters => counters

/-- A report whose counters say what was noted before. -/
structure Trial.Tallies (trial : Trial τ) (earlier : List (Note τ)) (report : Report τ) : Prop where
  total : report.counters.total = trial.scan.total
  issued : report.counters.issued = (issuedIn earlier).length
  /-- a target that is just found is counted -/
  found : report.counters.found = (foundIn (earlier ++ [.reported report])).length
  active : report.counters.active = flying earlier
  found_add_active_le : report.counters.found + report.counters.active ≤ report.counters.issued
  issued_le : report.counters.issued ≤ report.counters.total
  active_le : report.counters.active ≤ trial.scan.config.maxProbes.toNat

/-- Whether a note fits what was noted before: a probe is issued only while fewer than the limit
are in flight. -/
def Trial.Fits (trial : Trial τ) (earlier : List (Note τ)) : Note τ → Prop
  | .issued _ _ => flying earlier < (trial.limitAfter earlier).current
  | .reported report => trial.Tallies earlier report
  | _ => True

/-- Whether every note of a log fits those before it. -/
def Trial.Coherent (trial : Trial τ) (log : List (Note τ)) : Prop :=
  ∀ earlier note later, log = earlier ++ note :: later → trial.Fits earlier note

theorem coherent_nil (trial : Trial τ) : trial.Coherent [] := by
  simp [Trial.Coherent]

theorem Trial.Coherent.concat (coherent : trial.Coherent log) {note : Note τ}
    (fits : trial.Fits log note) : trial.Coherent (log ++ [note]) := by
  intro earlier last later split
  rcases List.eq_nil_or_concat later with rfl | ⟨front, other, rfl⟩
  · obtain ⟨rfl, same⟩ := List.append_inj' split rfl
    obtain rfl := List.singleton_inj.mp same
    exact fits
  · rw [List.concat_eq_append, ← List.cons_append, ← List.append_assoc] at split
    exact coherent earlier last front (List.append_inj' split rfl).1

/-- A pool may issue as many probes as there is room for. -/
theorem Trial.Coherent.issuing (coherent : trial.Coherent log)
    (ended : (settledIn log).length ≤ (issuedIn log).length) (taken : List (τ × Nat))
    (room : taken = [] ∨ flying log + taken.length ≤ (trial.limitAfter log).current) :
    trial.Coherent (log ++ taken.map fun entry => .issued entry.2 entry.1) := by
  induction taken generalizing log with
  | nil => simpa using coherent
  | cons first rest ih =>
      have settled : settledIn (log ++ [.issued first.2 first.1]) = settledIn log := by
        simp [settledIn]
      have issued : (issuedIn (log ++ [.issued first.2 first.1])).length =
          (issuedIn log).length + 1 := by
        simp [issuedIn]
      have limit : trial.limitAfter (log ++ [.issued first.2 first.1]) = trial.limitAfter log := by
        rw [limitAfter, settled, limitAfter]
      have room := room.resolve_left (List.cons_ne_nil _ _)
      rw [List.length_cons] at room
      have fits : trial.Fits log (.issued first.2 first.1) := by
        change flying log < (trial.limitAfter log).current
        omega
      have onward := ih (coherent.concat fits) (by rw [settled, issued]; omega) <| by
        right
        rw [limit]
        simp only [flying, settled, issued] at room ⊢
        omega
      simpa using onward

/-! ## Exact counters -/

/-- A pool whose counters and limit are exact. -/
structure Course.Metered (trial : Trial τ) (course : Course τ) : Prop where
  limit : course.pool.limit = trial.limitAfter course.log
  most : course.pool.limit.most = trial.scan.config.maxProbes.toNat
  floor : course.pool.limit.floor = trial.scan.config.minProbes.toNat
  inFlight_le : course.pool.inFlight.length ≤ trial.scan.config.maxProbes.toNat
  total : course.pool.counters.total = trial.scan.total
  found : course.pool.counters.found = course.pool.found.length
  coherent : trial.Coherent course.log

namespace Course.Sound

theorem length_issuedIn (sound : course.Sound trial) :
    (issuedIn course.log).length = course.pool.counters.issued := by
  rw [sound.issued, List.length_zipIdx, List.length_take, Nat.min_eq_left sound.issued_le]

theorem length_inFlight (sound : course.Sound trial) :
    (settledIn course.log).length + course.pool.inFlight.length =
      course.pool.counters.issued := by
  have lengths := sound.resolved.length_eq
  rwa [List.length_append, List.length_map, List.length_range] at lengths

theorem flying_eq (sound : course.Sound trial) :
    flying course.log = course.pool.inFlight.length := by
  have lengths := sound.length_inFlight
  rw [flying, sound.length_issuedIn]
  omega

theorem length_found_le (sound : course.Sound trial) :
    course.pool.found.length ≤ (settledIn course.log).length := by
  rw [sound.found]
  exact List.length_filterMap_le _ _

end Course.Sound

namespace Course.Metered

theorem fresh (made : trial.scan.config.IsMade) : trial.fresh.Metered trial where
  limit := rfl
  most := by
    have bounds := made.bounds
    simp only [Trial.fresh, Pool.start, Limit.start]
    omega
  floor := by
    have bounds := made.bounds
    simp only [Trial.fresh, Pool.start, Limit.start]
    omega
  inFlight_le := Nat.zero_le _
  total := rfl
  found := rfl
  coherent := coherent_nil trial

/-- The counters of a pool fit its log when it is time for a progress report. -/
theorem tallies (metered : course.Metered trial) (sound : course.Sound trial)
    (whole : trial.scan.total = trial.sequence.length) :
    trial.Tallies course.log
      (.progress { course.pool.counters with active := course.pool.inFlight.length }) := by
  have found := sound.length_found_le
  have inFlight := sound.length_inFlight
  exact
    { total := metered.total
      issued := sound.length_issuedIn.symm
      found := by
        rw [foundIn_append, sound.reported]
        exact metered.found.trans (by simp [foundIn])
      active := sound.flying_eq.symm
      found_add_active_le := by
        simp only [Report.counters, metered.found]
        omega
      issued_le := by
        simp only [Report.counters, metered.total, whole]
        exact sound.issued_le
      active_le := metered.inFlight_le }

section Settling

variable {position : Nat} {target : τ}

theorem flying_settled (log : List (Note τ)) (position : Nat) :
    flying (log ++ [.settled position]) = flying log - 1 := by
  simp only [flying, issuedIn_append, settledIn_append, List.length_append]
  simp only [issuedIn, settledIn, List.filterMap_cons, List.filterMap_nil, List.length_nil,
    List.length_singleton]
  omega

theorem limitAfter_settled (trial : Trial τ) (log : List (Note τ)) (position : Nat) :
    trial.limitAfter (log ++ [.settled position]) =
      (trial.limitAfter log).record (trial.verdict position) := by
  simp [Trial.limitAfter, settledIn, List.foldl_append]

/-- The counters of a pool fit its log when it has found a target. -/
theorem tallies_found (metered : course.Metered trial) (sound : course.Sound trial)
    (whole : trial.scan.total = trial.sequence.length)
    (here : course.pool.inFlight.lookup position = some target) :
    trial.Tallies (course.log ++ [.settled position])
      (.found target
        { course.pool.counters with
          found := course.pool.counters.found + 1
          active := (course.pool.inFlight.eraseP fun entry => entry.1 == position).length }) := by
  have found := sound.length_found_le
  have inFlight := sound.length_inFlight
  have fewer := (Woken.perm_inFlight here).length_eq
  have most := metered.inFlight_le
  have issued := sound.length_issuedIn
  rw [List.length_cons] at fewer
  exact
    { total := metered.total
      issued := by
        rw [issuedIn_append, List.length_append, issued]
        rfl
      found := by
        simp only [Report.counters, metered.found, foundIn_append, sound.reported,
          List.length_append]
        rfl
      active := by
        simp only [Report.counters, flying_settled, sound.flying_eq]
        omega
      found_add_active_le := by
        simp only [Report.counters, metered.found]
        omega
      issued_le := by
        simp only [Report.counters, metered.total, whole]
        exact sound.issued_le
      active_le := by
        simp only [Report.counters]
        omega }

theorem wake_settled (here : course.pool.inFlight.lookup position = some target) :
    trial.wake (.settled position) course =
      { course with
        pool := (course.pool.settle position (trial.verdict position)).1
        log := course.log ++ [.settled position] ++
          (course.pool.settle position (trial.verdict position)).2.map .reported } := by
  simp [Trial.wake, Trial.happening, Pool.heed, Trial.settledNotes, here]

theorem limitAfter_reported (trial : Trial τ) (log : List (Note τ)) (report : Report τ) :
    trial.limitAfter (log ++ [.reported report]) = trial.limitAfter log := by
  simp [Trial.limitAfter, settledIn]

theorem settled (metered : course.Metered trial) (sound : course.Sound trial)
    (whole : trial.scan.total = trial.sequence.length)
    (here : course.pool.inFlight.lookup position = some target) :
    (trial.wake (.settled position) course).Metered trial := by
  have fewer := (Woken.perm_inFlight here).length_eq
  have most := metered.inFlight_le
  rw [List.length_cons] at fewer
  have inFlight : (course.pool.inFlight.eraseP fun entry => entry.1 == position).length ≤
      trial.scan.config.maxProbes.toNat := by omega
  have once : trial.Coherent (course.log ++ [.settled position]) :=
    metered.coherent.concat trivial
  have limit : course.pool.limit.record (trial.verdict position) =
      trial.limitAfter (course.log ++ [.settled position]) := by
    rw [limitAfter_settled, metered.limit]
  rw [wake_settled here]
  by_cases opened : trial.verdict position = .opened
  · have fits : trial.Fits _ (.reported _) := metered.tallies_found sound whole here
    simp only [Pool.settle, here, if_pos opened, List.map_cons, List.map_nil]
    exact
      { limit := limit.trans (limitAfter_reported trial _ _).symm
        most := (Limit.most_record _ _).trans metered.most
        floor := (Limit.floor_record _ _).trans metered.floor
        inFlight_le := inFlight
        total := metered.total
        found := by simp [metered.found]
        coherent := once.concat fits }
  · simp only [Pool.settle, here, if_neg opened, List.map_nil, List.append_nil]
    exact
      { limit := limit
        most := (Limit.most_record _ _).trans metered.most
        floor := (Limit.floor_record _ _).trans metered.floor
        inFlight_le := inFlight
        total := metered.total
        found := metered.found
        coherent := once }

end Settling

theorem wake (metered : course.Metered trial) (sound : course.Sound trial)
    (whole : trial.scan.total = trial.sequence.length) (occasion : Occasion) :
    (trial.wake occasion course).Metered trial := by
  have still : Course.Metered trial { course with log := course.log ++ [] } := by
    rwa [List.append_nil]
  cases occasion with
  | ticked =>
      have fits : trial.Fits course.log (.reported _) := metered.tallies sound whole
      exact
        { limit := metered.limit.trans (limitAfter_reported trial course.log _).symm
          most := metered.most
          floor := metered.floor
          inFlight_le := metered.inFlight_le
          total := metered.total
          found := metered.found
          coherent := metered.coherent.concat fits }
  | noticed => exact still
  | settled position =>
      cases here : course.pool.inFlight.lookup position with
      | some target => exact metered.settled sound whole here
      | none =>
          have nothing : trial.wake (.settled position) course =
              { course with log := course.log ++ [] } := by
            simp [Trial.wake, Trial.happening, Pool.heed, Pool.settle, Trial.settledNotes, here]
          rw [nothing]
          exact still

/-- A pool takes targets as long as there is room for them. -/
theorem room_of_taken (trial : Trial τ) (course : Course τ) (cancels : Bool) :
    trial.taken cancels course = [] ∨
      course.pool.inFlight.length + (trial.taken cancels course).length ≤
        course.pool.limit.current := by
  have many := trial.length_taken cancels course
  unfold Pool.room at many
  split at many
  · left
    exact List.eq_nil_of_length_eq_zero (by omega)
  · rw [or_iff_not_imp_left]
    intro some
    have taken := List.length_pos_of_ne_nil some
    omega

theorem proceed (metered : course.Metered trial) (sound : course.Sound trial) (cancels : Bool) :
    (trial.proceed cancels course).Metered trial := by
  have pool := sound.pool_proceed cancels
  have within := sound.limit.current_le
  have room := room_of_taken trial course cancels
  have proceeded : trial.Coherent
      (course.log ++ [.proceeded (course.isCancelled || cancels)]) :=
    metered.coherent.concat trivial
  have issued : issuedIn (course.log ++ [.proceeded (course.isCancelled || cancels)]) =
      issuedIn course.log := by
    rw [issuedIn_append]
    exact List.append_nil _
  have settled : settledIn (course.log ++ [.proceeded (course.isCancelled || cancels)]) =
      settledIn course.log := by
    rw [settledIn_append]
    exact List.append_nil _
  have ended := sound.length_inFlight
  exact
    { limit := by
        rw [pool, Trial.limitAfter, sound.settledIn_proceed]
        exact metered.limit
      most := by rw [pool]; exact metered.most
      floor := by rw [pool]; exact metered.floor
      inFlight_le := by
        have most := metered.most
        have before := metered.inFlight_le
        rw [pool]
        simp only [List.length_append, List.length_map]
        rcases room with none | room
        · rw [none]
          exact before
        · omega
      total := by rw [pool]; exact metered.total
      found := by rw [pool]; exact metered.found
      coherent := by
        rw [sound.log_proceed, ← List.singleton_append, ← List.append_assoc]
        apply proceeded.issuing
        · rw [issued, settled, sound.length_issuedIn]
          omega
        · rwa [flying, Trial.limitAfter, issued, settled, ← flying, sound.flying_eq,
            ← Trial.limitAfter, ← metered.limit] }

end Course.Metered

/-- At every point that it reaches a pool is exact. -/
theorem Trial.Reaches.metered (reached : trial.Reaches course) (made : trial.scan.config.IsMade)
    (whole : trial.scan.total = trial.sequence.length) : course.Metered trial := by
  induction reached with
  | begun cancels => exact (Course.Metered.fresh made).proceed (.fresh trial) cancels
  | turned reached busy occasion cancels ih =>
      exact (ih.wake reached.sound whole occasion).proceed (reached.sound.wake occasion) cancels

/-- As long as targets remain and nobody has cancelled the scan, a pool that waits has no room
left. -/
theorem Trial.Reaches.current_le (reached : trial.Reaches course)
    (goesOn : course.isCancelled = false)
    (more : course.pool.counters.issued < trial.sequence.length) :
    course.pool.limit.current ≤ course.pool.inFlight.length := by
  obtain ⟨before, cancels, sound, rfl⟩ := reached.exists_proceed
  change (before.isCancelled || cancels) = false at goesOn
  have many := trial.length_taken cancels before
  have open_ : before.pool.isCancelled = false := by
    rw [sound.isCancelled]
    exact (Bool.or_eq_false_iff.mp goesOn).1
  have ready : before.pool.isExhausted = false := by
    rw [← Bool.not_eq_true]
    intro exhausted
    have spent := sound.exhausted exhausted
    rw [sound.issued_proceed] at more
    omega
  have room : before.pool.room false = before.pool.limit.current - before.pool.inFlight.length := by
    simp [Pool.room, open_, ready]
  rw [goesOn, room] at many
  rw [sound.issued_proceed] at more
  rw [sound.pool_proceed]
  simp only [List.length_append, List.length_map]
  omega

/-! ## Regulated pools -/

/-- What a pool has logged and reported, its last report included if it is done. -/
def Course.transcript (course : Course τ) : List (Note τ) :=
  if course.pool.isDone then course.log ++ [.reported course.pool.lastReport] else course.log

/-- How the limit and the counters of a pool are kept at some point. -/
structure Course.Regulated (trial : Trial τ) (course : Course τ) : Prop where
  /-- the floor is positive, -/
  floor_pos : 1 ≤ trial.scan.config.minProbes.toNat
  /-- and the limit keeps between it and the maximum -/
  floor_le : trial.scan.config.minProbes.toNat ≤ course.pool.limit.current
  current_le : course.pool.limit.current ≤ trial.scan.config.maxProbes.toNat
  /-- a pool that waits has some probes in flight, but not too many, -/
  waiting : course.pool.isDone = false → 1 ≤ course.pool.inFlight.length ∧
    course.pool.inFlight.length ≤ trial.scan.config.maxProbes.toNat
  /-- and no fewer than its limit if targets remain and nobody has cancelled the scan -/
  busy : course.isCancelled = false → course.pool.counters.issued < trial.sequence.length →
    course.pool.limit.current ≤ course.pool.inFlight.length
  /-- the log tells the limit and how many probes are in flight -/
  limit_eq : course.pool.limit = trial.limitAfter course.log
  inFlight_eq : course.pool.inFlight.length = flying course.log
  /-- a probe is issued only while fewer than the limit are in flight -/
  issued : ∀ earlier position target later,
    course.log = earlier ++ .issued position target :: later →
      flying earlier < (trial.limitAfter earlier).current
  /-- what is reported is what was noted -/
  reported : ∀ earlier report later, course.transcript = earlier ++ .reported report :: later →
    trial.Tallies earlier report
  /-- and never gets less -/
  monotone : ∀ front first middle second back,
    course.transcript = front ++ .reported first :: (middle ++ .reported second :: back) →
      first.counters.issued ≤ second.counters.issued ∧
        first.counters.found ≤ second.counters.found
  /-- in the end no probe is in flight, and all targets were probed unless the scan was
  cancelled -/
  last : course.pool.isDone → course.pool.lastReport.counters.active = 0 ∧
    ∀ found, course.pool.outcome = .completed found →
      course.pool.lastReport.counters.issued = course.pool.lastReport.counters.total

/-- The last report is like any other one. -/
theorem Course.Metered.coherent_transcript (metered : course.Metered trial)
    (sound : course.Sound trial) (whole : trial.scan.total = trial.sequence.length) :
    trial.Coherent course.transcript := by
  unfold Course.transcript
  split
  case isFalse => exact metered.coherent
  case isTrue isDone =>
    have nothing : course.pool.inFlight.length = 0 := by
      rw [List.isEmpty_iff.mp isDone]
      rfl
    have told := metered.tallies sound whole
    rw [nothing] at told
    have fits : trial.Fits course.log (.reported course.pool.lastReport) := told
    exact metered.coherent.concat fits

/-- Counters that are reported later are at least as great. -/
theorem Trial.Coherent.monotone (coherent : trial.Coherent log) {front middle back : List (Note τ)}
    {first second : Report τ}
    (split : log = front ++ .reported first :: (middle ++ .reported second :: back)) :
    first.counters.issued ≤ second.counters.issued ∧
      first.counters.found ≤ second.counters.found := by
  have early : trial.Tallies front first := coherent _ (.reported first) _ split
  have late : trial.Tallies (front ++ .reported first :: middle) second :=
    coherent _ (.reported second) back (by rw [split]; simp)
  rw [early.issued, late.issued, early.found, late.found]
  constructor
  · rw [issuedIn_append, List.length_append]
    exact Nat.le_add_right _ _
  · have regrouped : front ++ .reported first :: middle ++ [.reported second] =
        front ++ [.reported first] ++ (middle ++ [.reported second]) := by simp
    rw [regrouped, foundIn_append (front ++ _), List.length_append]
    exact Nat.le_add_right _ _

/-- A pool keeps to its limits and reports exact counters: this holds at every point that it
reaches, in whatever order its probes come to an end, whenever progress is reported and whenever
the scan is cancelled. -/
theorem pool_regulated (made : trial.scan.config.IsMade)
    (whole : trial.scan.total = trial.sequence.length) (reached : trial.Reaches course) :
    course.Regulated trial := by
  have sound := reached.sound
  have metered := reached.metered made whole
  have floor_le := sound.limit.floor_le
  have current_le := sound.limit.current_le
  have coherent := metered.coherent_transcript sound whole
  rw [metered.floor] at floor_le
  rw [metered.most] at current_le
  exact
    { floor_pos := made.bounds.1
      floor_le := floor_le
      current_le := current_le
      waiting := by
        intro waits
        refine ⟨?_, metered.inFlight_le⟩
        rw [Nat.one_le_iff_ne_zero, Ne, List.length_eq_zero_iff]
        intro nothing
        simp [Pool.isDone, nothing] at waits
      busy := reached.current_le
      limit_eq := metered.limit
      inFlight_eq := sound.flying_eq.symm
      issued := fun earlier position target => metered.coherent earlier (.issued position target)
      reported := fun earlier report => coherent earlier (.reported report)
      monotone := fun _ _ _ _ _ => coherent.monotone
      last := by
        intro isDone
        refine ⟨rfl, fun found completed => ?_⟩
        have goesOn : course.isCancelled = false := by
          unfold Pool.outcome at completed
          rw [← sound.isCancelled, ← Bool.not_eq_true]
          intro cancelled
          rw [if_pos cancelled] at completed
          contradiction
        have spent := reached.issued_of_isDone isDone goesOn
        simp only [Pool.lastReport, Report.counters, metered.total, whole]
        exact spent }

/-- A pool of two probes, whose limit falls to one when the first of its targets does not
answer. -/
def adaptiveTrial : Trial String where
  scan :=
    { config := .adaptive 2 50 500
      targets := fun position => ["host", "printer", "door"][position]?
      total := 3 }
  sequence := ["host", "printer", "door"]
  targets_eq := rfl
  script position := if position = 0 then { delay := 501 } else { verdict := .opened }

/-- After its first probe has timed out, the pool waits for the second one although it was made
for two. -/
theorem adaptive_trial_regulated :
    ∃ course, adaptiveTrial.Reaches course ∧ course.pool.isDone = false ∧
      course.pool.limit.current = 1 ∧ course.pool.inFlight.length = 1 ∧
      course.Regulated adaptiveTrial := by
  have begun : adaptiveTrial.Reaches (adaptiveTrial.proceed false adaptiveTrial.fresh) :=
    .begun false
  have first := begun.turned rfl (.settled 0) false
  exact ⟨_, first, rfl, by decide +kernel, rfl, pool_regulated (.adaptive 2 50 500) rfl first⟩

end FieldSurvey.Probe
