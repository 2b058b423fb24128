import FieldSurvey.Proofs.Probe.Course

/-!
# Complete or cancelled

A pool ends as soon as all the probes that it has issued have come to an end.  If nobody has
cancelled its scan by then, it has probed every target, and hands over those that are open;
otherwise it says that it was cancelled.
-/

namespace FieldSurvey.Probe

variable {τ : Type} {trial : Trial τ} {course : Course τ} {cancels : Bool}

/-- What holds of a pool and its log at every point. -/
structure Course.Sound (trial : Trial τ) (course : Course τ) : Prop where
  limit : course.pool.limit.WithinBounds
  issued_le : course.pool.counters.issued ≤ trial.sequence.length
  issued : issuedIn course.log = (trial.sequence.take course.pool.counters.issued).zipIdx
  /-- a probe that was issued is in flight, or else it has come to an end -/
  resolved : (settledIn course.log ++ course.pool.inFlight.map Prod.fst).Perm
    (List.range course.pool.counters.issued)
  inFlight : ∀ entry ∈ course.pool.inFlight, trial.sequence[entry.1]? = some entry.2
  found : course.pool.found = (settledIn course.log).filterMap trial.opened?
  reported : foundIn course.log = course.pool.found
  exhausted : course.pool.isExhausted →
    course.pool.counters.issued = trial.sequence.length
  isCancelled : course.pool.isCancelled = course.isCancelled
  stopped : .proceeded true ∈ course.log → course.isCancelled
  restrained : Restrained course.log

/-- What a pool takes as it proceeds. -/
def Trial.taken (trial : Trial τ) (cancels : Bool) (course : Course τ) : List (τ × Nat) :=
  course.pool.ahead trial.sequence (course.pool.room (course.isCancelled || cancels))

theorem Trial.length_taken (trial : Trial τ) (cancels : Bool) (course : Course τ) :
    (trial.taken cancels course).length =
      min (course.pool.room (course.isCancelled || cancels))
        (trial.sequence.length - course.pool.counters.issued) :=
  Pool.length_ahead _ _ _

theorem Trial.taken_of_isCancelled (trial : Trial τ)
    (isCancelled : (course.isCancelled || cancels) = true) :
    trial.taken cancels course = [] := by
  simp [Trial.taken, isCancelled, Pool.room, Pool.ahead]

theorem restrained_proceeded {isCancelled : Bool} {taken : List (τ × Nat)}
    (none : isCancelled = true → taken = []) :
    Restrained (.proceeded isCancelled ::
      taken.map fun entry => .issued entry.2 entry.1) := by
  intro earlier later split
  cases isCancelled with
  | true =>
      have lengths := congrArg List.length split
      rw [none rfl] at lengths
      have nothing : later = [] := List.eq_nil_of_length_eq_zero (by simp at lengths; omega)
      rw [nothing]
      rfl
  | false =>
      have member : Note.proceeded true ∈ Note.proceeded false ::
          taken.map fun entry => .issued entry.2 entry.1 := by
        rw [split]
        simp
      simp at member

namespace Course.Sound

theorem fresh (trial : Trial τ) : trial.fresh.Sound trial where
  limit := .start _ _
  issued_le := Nat.zero_le _
  issued := rfl
  resolved := .refl _
  inFlight := by simp [Trial.fresh, Pool.start]
  found := rfl
  reported := rfl
  exhausted := by simp [Trial.fresh, Pool.start]
  isCancelled := rfl
  stopped := by simp [Trial.fresh]
  restrained := by simp [Trial.fresh, Restrained]

theorem positions_eq (sound : course.Sound trial) :
    (issuedIn course.log).map Prod.snd = List.range course.pool.counters.issued := by
  rw [sound.issued, List.zipIdx_map_snd, List.length_take, Nat.min_eq_left sound.issued_le,
    List.range_eq_range']

/-! ### Proceeding -/

theorem pool_proceed (sound : course.Sound trial) (cancels : Bool) :
    (trial.proceed cancels course).pool =
      { course.pool with
        inFlight := course.pool.inFlight ++ (trial.taken cancels course).map Prod.swap
        counters := { course.pool.counters with
          issued := course.pool.counters.issued + (trial.taken cancels course).length }
        isExhausted := course.pool.isExhausted || decide (trial.sequence.length <
          course.pool.counters.issued + course.pool.room (course.isCancelled || cancels))
        isCancelled := course.isCancelled || cancels } := by
  have same : (course.pool.isCancelled || (course.isCancelled || cancels)) =
      (course.isCancelled || cancels) := by
    rw [sound.isCancelled, ← Bool.or_assoc, Bool.or_self]
  rw [Trial.proceed, trial.targets_eq, Pool.proceed_eq _ _ _ sound.issued_le, same]
  rfl

theorem log_proceed (sound : course.Sound trial) (cancels : Bool) :
    (trial.proceed cancels course).log =
      course.log ++ .proceeded (course.isCancelled || cancels) ::
        (trial.taken cancels course).map fun entry => .issued entry.2 entry.1 := by
  have pool := sound.pool_proceed cancels
  simp only [Trial.proceed] at pool ⊢
  simp [pool]

theorem issuedIn_proceed (sound : course.Sound trial) (cancels : Bool) :
    issuedIn (trial.proceed cancels course).log =
      issuedIn course.log ++ trial.taken cancels course := by
  rw [sound.log_proceed, issuedIn_append]
  simp [issuedIn, List.filterMap_map]

theorem settledIn_proceed (sound : course.Sound trial) (cancels : Bool) :
    settledIn (trial.proceed cancels course).log = settledIn course.log := by
  rw [sound.log_proceed, settledIn_append]
  simp [settledIn, List.filterMap_map]

theorem foundIn_proceed (sound : course.Sound trial) (cancels : Bool) :
    foundIn (trial.proceed cancels course).log = foundIn course.log := by
  rw [sound.log_proceed, foundIn_append]
  simp [foundIn, List.filterMap_map]

theorem issued_proceed (sound : course.Sound trial) (cancels : Bool) :
    (trial.proceed cancels course).pool.counters.issued =
      course.pool.counters.issued + (trial.taken cancels course).length := by
  rw [sound.pool_proceed]

/-- The probes that are issued come to those that are in flight or have come to an end. -/
theorem resolved_proceed (sound : course.Sound trial) (cancels : Bool) :
    (settledIn course.log ++ (trial.proceed cancels course).pool.inFlight.map Prod.fst).Perm
      (List.range (trial.proceed cancels course).pool.counters.issued) := by
  have positions : ((trial.taken cancels course).map Prod.swap).map Prod.fst =
      List.range' course.pool.counters.issued (trial.taken cancels course).length := by
    rw [List.map_map]
    exact Pool.map_snd_ahead _ _ _
  rw [sound.issued_proceed, sound.pool_proceed, List.map_append, positions, List.range_add,
    ← List.range'_eq_map_range, ← List.append_assoc]
  exact sound.resolved.append_right _

theorem proceed (sound : course.Sound trial) (cancels : Bool) :
    (trial.proceed cancels course).Sound trial := by
  have pool := sound.pool_proceed cancels
  have many := trial.length_taken cancels course
  have within := sound.issued_le
  exact
    { limit := by rw [pool]; exact sound.limit
      issued_le := by
        rw [sound.issued_proceed]
        omega
      issued := by
        rw [sound.issuedIn_proceed, sound.issued, sound.issued_proceed]
        exact Pool.zipIdx_take_append_ahead _ _ _ within
      resolved := by
        rw [sound.settledIn_proceed]
        exact sound.resolved_proceed cancels
      inFlight := by
        rw [pool]
        intro entry member
        rcases List.mem_append.mp member with former | new
        · exact sound.inFlight entry former
        · rcases List.mem_map.mp new with ⟨next, isTaken, rfl⟩
          exact Pool.getElem?_of_mem_ahead isTaken
      found := by rw [sound.settledIn_proceed, pool]; exact sound.found
      reported := by rw [sound.foundIn_proceed, pool]; exact sound.reported
      exhausted := by
        rw [sound.issued_proceed, pool]
        intro exhausted
        rcases (Bool.or_eq_true _ _).mp exhausted with already | now
        · have spent := sound.exhausted already
          omega
        · have short := of_decide_eq_true now
          omega
      isCancelled := by rw [pool]; rfl
      stopped := by
        rw [sound.log_proceed]
        intro member
        rcases List.mem_append.mp member with former | new
        · exact (Bool.or_eq_true _ _).mpr (Or.inl (sound.stopped former))
        · simpa [Trial.proceed] using new
      restrained := by
        rw [sound.log_proceed]
        apply sound.restrained.append
        · intro former
          rw [trial.taken_of_isCancelled (by rw [sound.stopped former, Bool.true_or])]
          rfl
        · exact restrained_proceeded trial.taken_of_isCancelled }

end Course.Sound

/-! ### Waking -/

/-- What waking a pool makes of it, and the notes on that. -/
structure Woken (trial : Trial τ) (before after : Pool τ) (more : List (Note τ)) : Prop
    extends before.Heeds after where
  limit : before.limit.WithinBounds → after.limit.WithinBounds
  /-- the probes of which the notes tell are no longer in flight -/
  resolved : (settledIn more ++ after.inFlight.map Prod.fst).Perm (before.inFlight.map Prod.fst)
  inFlight : after.inFlight ⊆ before.inFlight
  found : after.found = before.found ++ (settledIn more).filterMap trial.opened?
  reported : foundIn more = (settledIn more).filterMap trial.opened?
  issuedIn_eq : issuedIn more = []
  not_proceeded : ∀ isCancelled, .proceeded isCancelled ∉ more

namespace Woken

variable {pool : Pool τ}

theorem refl (trial : Trial τ) (pool : Pool τ) : Woken trial pool pool [] where
  limit bounds := bounds
  issued := rfl
  isExhausted := rfl
  isCancelled := rfl
  resolved := .refl _
  inFlight _ member := member
  found := (List.append_nil _).symm
  reported := rfl
  issuedIn_eq := rfl
  not_proceeded _ := List.not_mem_nil

theorem ticked (trial : Trial τ) (pool : Pool τ) :
    Woken trial pool pool.tick.1 (pool.tick.2.map .reported) :=
  { refl trial pool with
    resolved := .refl _
    found := (List.append_nil _).symm
    reported := rfl
    issuedIn_eq := rfl
    not_proceeded := by simp [Pool.tick] }

theorem verdict_eq_opened_iff (trial : Trial τ) (position : Nat) :
    trial.verdict position = .opened ↔
      (trial.script position).verdict = .opened ∧
        (trial.script position).delay ≤ trial.scan.config.timeout := by
  unfold Trial.verdict Rehearsal.ProbeScript.verdictWithin
  split <;> simp_all

/-- A probe that comes to an end leaves the other ones in flight. -/
theorem perm_inFlight {position : Nat} {target : τ} {inFlight : List (Nat × τ)}
    (here : inFlight.lookup position = some target) :
    ((position, target) :: inFlight.eraseP fun entry => entry.1 == position).Perm inFlight := by
  rcases List.lookup_eq_some_iff.mp here with ⟨earlier, later, rfl, apart⟩
  have others : ∀ entry ∈ earlier, ¬(entry.1 == position) = true := by
    rintro entry member same
    have differs := apart entry member
    simp only [beq_iff_eq] at same
    simp [same] at differs
  rw [List.eraseP_append_right _ others, List.eraseP_cons_of_pos (by simp)]
  exact List.perm_middle.symm

theorem settled {position : Nat} {target : τ} (here : pool.inFlight.lookup position = some target)
    (itself : trial.sequence[position]? = some target) :
    Woken trial pool (pool.settle position (trial.verdict position)).1
      (.settled position :: (pool.settle position (trial.verdict position)).2.map .reported) := by
  have others := perm_inFlight here
  by_cases opened : trial.verdict position = .opened
  · have isOpen : trial.opened? position = some target := by
      rw [Trial.opened?, if_pos ((verdict_eq_opened_iff trial position).mp opened), itself]
    simp only [Pool.settle, here, if_pos opened]
    exact
      { limit := fun bounds => bounds.record _
        issued := rfl
        isExhausted := rfl
        isCancelled := rfl
        resolved := others.map Prod.fst
        inFlight := fun _ member => List.mem_of_mem_eraseP member
        found := by simp [settledIn, isOpen]
        reported := by simp [settledIn, foundIn, isOpen]
        issuedIn_eq := rfl
        not_proceeded := by simp }
  · have isClosed : trial.opened? position = none := by
      rw [Trial.opened?, if_neg (mt (verdict_eq_opened_iff trial position).mpr opened)]
    simp only [Pool.settle, here, if_neg opened]
    exact
      { limit := fun bounds => bounds.record _
        issued := rfl
        isExhausted := rfl
        isCancelled := rfl
        resolved := others.map Prod.fst
        inFlight := fun _ member => List.mem_of_mem_eraseP member
        found := by simp [settledIn, isClosed]
        reported := by simp [settledIn, foundIn, isClosed]
        issuedIn_eq := rfl
        not_proceeded := by simp }

theorem restrained {before after : Pool τ} {more : List (Note τ)}
    (woken : Woken trial before after more) : Restrained more := by
  rintro earlier later rfl
  exact absurd (List.mem_append_right earlier (List.mem_cons_self ..)) (woken.not_proceeded true)

end Woken

namespace Course.Sound

theorem woken (sound : course.Sound trial) {pool : Pool τ} {more : List (Note τ)}
    (woken : Woken trial course.pool pool more) :
    Course.Sound trial { course with pool, log := course.log ++ more } where
  limit := woken.limit sound.limit
  issued_le := woken.issued ▸ sound.issued_le
  issued := by
    rw [issuedIn_append, woken.issuedIn_eq, List.append_nil, woken.issued]
    exact sound.issued
  resolved := by
    rw [settledIn_append, List.append_assoc, woken.issued]
    exact (woken.resolved.append_left _).trans sound.resolved
  inFlight entry member := sound.inFlight entry (woken.inFlight member)
  found := by
    rw [settledIn_append, List.filterMap_append, ← sound.found]
    exact woken.found
  reported := by
    rw [foundIn_append, sound.reported, woken.reported]
    exact woken.found.symm
  exhausted isExhausted := by
    rw [woken.issued]
    exact sound.exhausted (woken.isExhausted ▸ isExhausted)
  isCancelled := woken.isCancelled.trans sound.isCancelled
  stopped member := by
    rcases List.mem_append.mp member with former | new
    · exact sound.stopped former
    · exact absurd new (woken.not_proceeded true)
  restrained := sound.restrained.append (fun _ => woken.issuedIn_eq) woken.restrained

theorem wake (sound : course.Sound trial) (occasion : Occasion) :
    (trial.wake occasion course).Sound trial := by
  apply sound.woken
  cases occasion with
  | ticked => exact .ticked trial course.pool
  | noticed => exact .refl trial course.pool
  | settled position =>
      cases here : course.pool.inFlight.lookup position with
      | none =>
          have nothing : course.pool.settle position (trial.verdict position) =
              (course.pool, []) := by
            simp [Pool.settle, here]
          simp only [Trial.happening, nothing, Trial.settledNotes, here]
          exact .refl trial course.pool
      | some target =>
          have itself := sound.inFlight _ ((Woken.perm_inFlight here).subset List.mem_cons_self)
          simp only [Trial.happening, Trial.settledNotes, here]
          exact .settled here itself

end Course.Sound

/-! ## Points that a pool can reach -/

namespace Trial.Reaches

/-- At every point that it reaches a pool has just proceeded. -/
theorem exists_proceed (reached : trial.Reaches course) :
    ∃ (before : Course τ) (cancels : Bool),
      before.Sound trial ∧ course = trial.proceed cancels before := by
  induction reached with
  | begun cancels => exact ⟨trial.fresh, cancels, .fresh trial, rfl⟩
  | @turned course _ _ occasion cancels inductionHypothesis =>
      rcases inductionHypothesis with ⟨before, earlier, sound, rfl⟩
      exact ⟨_, cancels, (sound.proceed earlier).wake occasion, rfl⟩

theorem sound (reached : trial.Reaches course) : course.Sound trial := by
  rcases reached.exists_proceed with ⟨before, cancels, sound, rfl⟩
  exact sound.proceed cancels

/-- A pool that is done, and whose scan nobody has cancelled, has taken every target. -/
theorem issued_of_isDone (reached : trial.Reaches course) (isDone : course.pool.isDone)
    (goesOn : course.isCancelled = false) :
    course.pool.counters.issued = trial.sequence.length := by
  rcases reached.exists_proceed with ⟨before, cancels, sound, rfl⟩
  change (before.isCancelled || cancels) = false at goesOn
  have within := sound.issued_le
  have many := trial.length_taken cancels before
  rw [goesOn] at many
  rw [sound.pool_proceed] at isDone
  rw [sound.issued_proceed]
  have empty := List.append_eq_nil_iff.mp (List.isEmpty_iff.mp isDone)
  have nothing : (trial.taken cancels before).length = 0 := by
    simpa using congrArg List.length empty.2
  cases exhausted : before.pool.isExhausted with
  | true =>
      have spent := sound.exhausted exhausted
      omega
  | false =>
      have isOpen : before.pool.isCancelled = false := by
        rw [sound.isCancelled]
        exact (Bool.or_eq_false_iff.mp goesOn).1
      -- nothing is in flight, so that there was room for a target, but there was none to take
      have room : before.pool.room false = before.pool.limit.current := by
        simp [Pool.room, isOpen, exhausted, empty.1]
      have positive := sound.limit.current_pos
      omega

/-- A pool is done as soon as every probe that it has issued has come to an end. -/
theorem isDone_iff (reached : trial.Reaches course) :
    course.pool.isDone ↔
      (settledIn course.log).Perm ((issuedIn course.log).map Prod.snd) := by
  have resolved := reached.sound.resolved
  rw [reached.sound.positions_eq]
  constructor
  · intro isDone
    have empty : course.pool.inFlight = [] := List.isEmpty_iff.mp isDone
    simpa [empty] using resolved
  · intro ended
    have lengths := resolved.length_eq.trans ended.length_eq.symm
    have empty : course.pool.inFlight = [] :=
      List.eq_nil_of_length_eq_zero (by simpa using lengths)
    exact List.isEmpty_iff.mpr empty

end Trial.Reaches

/-! ## Going on for ever -/

/-- A pool that is never done, although every probe that it issues comes to an end. -/
structure Trial.RunsForever (trial : Trial τ) (courses : Nat → Course τ) : Prop where
  begun : ∃ cancels, courses 0 = trial.proceed cancels trial.fresh
  turned : ∀ moment, ∃ occasion cancels,
    courses (moment + 1) = trial.turn occasion cancels (courses moment)
  busy : ∀ moment, (courses moment).pool.isDone = false
  resolved : ∀ moment, ∀ entry ∈ issuedIn (courses moment).log,
    ∃ later, entry.2 ∈ settledIn (courses later).log

namespace Trial.RunsForever

variable {courses : Nat → Course τ}

theorem reaches (forever : trial.RunsForever courses) (moment : Nat) :
    trial.Reaches (courses moment) := by
  induction moment with
  | zero =>
      rcases forever.begun with ⟨cancels, begun⟩
      rw [begun]
      exact .begun cancels
  | succ moment inductionHypothesis =>
      rcases forever.turned moment with ⟨occasion, cancels, turned⟩
      rw [turned]
      exact .turned inductionHypothesis (forever.busy moment) occasion cancels

theorem settledIn_prefix_turn (trial : Trial τ) (occasion : Occasion) (cancels : Bool)
    (course : Course τ) :
    settledIn course.log <+: settledIn (trial.turn occasion cancels course).log := by
  simp only [Trial.turn, Trial.proceed, Trial.wake, settledIn_append, List.append_assoc]
  exact List.prefix_append _ _

theorem settledIn_prefix (forever : trial.RunsForever courses) {earlier later : Nat}
    (order : earlier ≤ later) :
    settledIn (courses earlier).log <+: settledIn (courses later).log := by
  induction order with
  | refl => exact List.prefix_refl _
  | @step later _ inductionHypothesis =>
      rcases forever.turned later with ⟨occasion, cancels, turned⟩
      rw [turned]
      exact inductionHypothesis.trans (settledIn_prefix_turn trial occasion cancels _)

/-- One of the probes in flight comes to an end some time. -/
theorem exists_more (forever : trial.RunsForever courses) (moment : Nat) :
    ∃ later, (settledIn (courses moment).log).length <
      (settledIn (courses later).log).length := by
  have sound := (forever.reaches moment).sound
  rcases List.exists_mem_of_ne_nil (courses moment).pool.inFlight
    (by simpa [Pool.isDone] using forever.busy moment) with ⟨⟨position, target⟩, flying⟩
  have inFlight : position ∈ (courses moment).pool.inFlight.map Prod.fst :=
    List.mem_map_of_mem flying
  have issued : position ∈ (issuedIn (courses moment).log).map Prod.snd := by
    rw [sound.positions_eq]
    exact sound.resolved.subset (List.mem_append_right _ inFlight)
  have unsettled : position ∉ settledIn (courses moment).log := by
    have apart := sound.resolved.nodup_iff.mpr List.nodup_range
    exact fun settled => (List.nodup_append.mp apart).2.2 position settled position inFlight rfl
  rcases List.mem_map.mp issued with ⟨entry, isIssued, rfl⟩
  rcases forever.resolved moment entry isIssued with ⟨later, settled⟩
  -- what has come to an end stays so, hence this happens later
  rcases Nat.le_total later moment with before | after
  · exact absurd ((forever.settledIn_prefix before).subset settled) unsettled
  · have grown := forever.settledIn_prefix after
    refine ⟨later, Nat.lt_of_le_of_ne grown.length_le fun same => unsettled ?_⟩
    rw [grown.eq_of_length same]
    exact settled

theorem exists_many (forever : trial.RunsForever courses) (count : Nat) :
    ∃ moment, count ≤ (settledIn (courses moment).log).length := by
  induction count with
  | zero => exact ⟨0, Nat.zero_le _⟩
  | succ count inductionHypothesis =>
      rcases inductionHypothesis with ⟨moment, many⟩
      rcases forever.exists_more moment with ⟨later, more⟩
      exact ⟨later, Nat.lt_of_le_of_lt many more⟩

/-- No more probes come to an end than there are targets. -/
theorem not_runsForever (forever : trial.RunsForever courses) : False := by
  rcases forever.exists_many (trial.sequence.length + 1) with ⟨moment, many⟩
  have sound := (forever.reaches moment).sound
  have lengths := sound.resolved.length_eq
  have within := sound.issued_le
  simp only [List.length_append, List.length_map, List.length_range] at lengths
  omega

end Trial.RunsForever

/-! ## Complete or cancelled -/

/-- What a pool has to show for its targets. -/
structure Course.Accounted (trial : Trial τ) (course : Course τ) : Prop where
  /-- the targets are taken in their order, each of them once -/
  issued : issuedIn course.log <+: trial.sequence.zipIdx
  /-- the pool is done as soon as every probe that it has issued has come to an end -/
  isDone_iff : course.pool.isDone ↔
    (settledIn course.log).Perm ((issuedIn course.log).map Prod.snd)
  /-- every open target is reported once its probe has come to an end -/
  reported : foundIn (course.log ++ [.reported course.pool.lastReport]) =
    (settledIn course.log).filterMap trial.opened?
  restrained : Restrained course.log
  outcome : course.pool.isDone →
    match course.pool.outcome with
    | .completed found =>
      course.isCancelled = false ∧ issuedIn course.log = trial.sequence.zipIdx ∧
        found = (settledIn course.log).filterMap trial.opened?
    | .cancelled => course.isCancelled

theorem zipIdx_take_prefix (sequence : List τ) (count : Nat) :
    (sequence.take count).zipIdx <+: sequence.zipIdx := by
  have whole : sequence.zipIdx = (sequence.take count ++ sequence.drop count).zipIdx := by
    rw [List.take_append_drop]
  rw [whole, List.zipIdx_append]
  exact List.prefix_append _ _

/-- A pool ends with all its targets or is cancelled, and nothing in between: this holds on
every course, and no course goes on for ever if every probe comes to an end. -/
theorem complete_or_cancelled (trial : Trial τ) :
    (∀ course, trial.Reaches course → course.Accounted trial) ∧
      ∀ courses, ¬trial.RunsForever courses := by
  refine ⟨fun course reached => ?_, fun courses forever => forever.not_runsForever⟩
  have sound := reached.sound
  exact
    { issued := by
        rw [sound.issued]
        exact zipIdx_take_prefix _ _
      isDone_iff := reached.isDone_iff
      reported := by
        rw [foundIn_append, sound.reported, ← sound.found]
        exact List.append_nil _
      restrained := sound.restrained
      outcome := by
        intro isDone
        unfold Pool.outcome
        rw [sound.isCancelled]
        cases cancelled : course.isCancelled with
        | true => exact rfl
        | false =>
            refine ⟨rfl, ?_, sound.found⟩
            rw [sound.issued, reached.issued_of_isDone isDone cancelled, List.take_length] }

/-- What a scan that runs alone finds are targets of its sequence that answer in time that they are
open. -/
theorem opened_of_run (lone : Rehearsal.LoneScan τ) (sequence : List τ)
    (finite : lone.scan.targets = fun position => sequence[position]?) {found : List τ}
    (completed : lone.run.outcome = .completed found) {target : τ} (member : target ∈ found) :
    target ∈ sequence ∧
      (lone.script target).verdictWithin lone.scan.config.timeout = .opened := by
  obtain ⟨final, reached, outcome⟩ := exists_reaches_run lone sequence finite
  have finds : final.pool.found = found := by
    rw [completed, Pool.outcome] at outcome
    split at outcome
    · contradiction
    · exact (Outcome.completed.inj outcome).symm
  rw [← finds, reached.sound.found, List.mem_filterMap] at member
  obtain ⟨position, -, opened⟩ := member
  unfold Trial.opened? at opened
  split at opened
  · rename_i answers
    have here : lone.scan.targets position = some target := by
      rw [finite]
      exact opened
    have itself : Rehearsal.scriptAt lone.scan lone.script position = lone.script target := by
      rw [Rehearsal.scriptAt, here, Option.elim_some]
    refine ⟨List.mem_of_getElem? opened, ?_⟩
    rw [← itself]
    exact (Woken.verdict_eq_opened_iff (trialOf lone sequence finite) position).mpr answers
  · contradiction

/-- A pool of one probe with two targets, the second of which does not answer. -/
def smallTrial : Trial String where
  scan :=
    { config := .fixed 1 500
      targets := fun position => ["host", "printer"][position]?
      total := 2 }
  sequence := ["host", "printer"]
  targets_eq := rfl
  script position := if position = 0 then { verdict := .opened } else { delay := 501 }

theorem small_trial_completes :
    ∃ course, smallTrial.Reaches course ∧ course.pool.isDone ∧
      course.pool.outcome = .completed ["host"] ∧ course.Accounted smallTrial := by
  have begun : smallTrial.Reaches (smallTrial.proceed false smallTrial.fresh) := .begun false
  have first := begun.turned rfl (.settled 0) false
  have second := first.turned rfl (.settled 1) false
  exact ⟨_, second, rfl, rfl, (complete_or_cancelled smallTrial).1 _ second⟩

end FieldSurvey.Probe
