import FieldSurvey.Proofs.Survey.Progress
import FieldSurvey.Proofs.Surveyor.Pacing
import FieldSurvey.Proofs.Surveyor.Serial

/-!
# Every request leaves

No request is pending for ever if the worker keeps getting what it waits for: each time there are
fewer requests in front of it, or the one that runs has less left to do.  What others do in the
meantime does not throw it back.
-/

namespace FieldSurvey.Surveyor

open Survey (Activity Ending Event Less RunCalls Status Wake advance wellFounded_less)

variable {surveyor before after : Surveyor} {ticket : Nat} {job : Job}

/-! ## Endless sequences -/

/-- The first turns of an endless sequence. -/
def opening (turns : Nat → Turn) (moment : Nat) : List Turn :=
  (List.range moment).map turns

/-- Whether it is a turn that the worker waits for. -/
def Turn.Awaited (turn : Turn) (surveyor : Surveyor) : Prop :=
  match surveyor.worker with
  | .idle => ∃ now, turn = .take now
  | .running ticket _ activity =>
    ∃ now wake, turn = .resume now wake ∧ activity.Awaits (surveyor.isCancelled ticket) wake
  | .stopped => False

/-- An endless sequence of turns in which the worker gets what it waits for, again and again,
unless it has stopped. -/
def Fair (surveyor : Surveyor) (turns : Nat → Turn) : Prop :=
  ∀ moment, ∃ later, moment ≤ later ∧
    ((play (opening turns later) surveyor).1.worker = .stopped ∨
      (turns later).Awaited (play (opening turns later) surveyor).1)

theorem opening_succ (turns : Nat → Turn) (moment : Nat) :
    opening turns (moment + 1) = opening turns moment ++ [turns moment] := by
  simp [opening, List.range_succ]

theorem exists_opening_append (turns : Nat → Turn) {moment later : Nat} (order : moment ≤ later) :
    ∃ rest, opening turns later = opening turns moment ++ rest := by
  induction order with
  | refl => exact ⟨[], (List.append_nil _).symm⟩
  | @step later _ ih =>
      obtain ⟨rest, same⟩ := ih
      exact ⟨rest ++ [turns later], by rw [opening_succ, same, List.append_assoc]⟩

theorem play_opening_succ (turns : Nat → Turn) (moment : Nat) (surveyor : Surveyor) :
    (play (opening turns (moment + 1)) surveyor).1 =
      ((turns moment).act (play (opening turns moment) surveyor).1).1 := by
  rw [opening_succ, play_append]
  rfl

/-! ## What is left to do -/

/-- How many pending requests are in front of one. -/
def ahead (ticket : Nat) (surveyor : Surveyor) : Nat :=
  surveyor.tickets.countP (· < ticket)

/-- What is left to do until a request leaves: those in front of it, and what the worker has
begun, if it has begun anything. -/
def left (ticket : Nat) (surveyor : Surveyor) : Nat × (Program RunCalls Ending × Nat) :=
  match surveyor.worker with
  | .running _ _ activity => (2 * surveyor.ahead ticket, activity.left)
  | _ => (2 * surveyor.ahead ticket + 1, (.done .cancelled, 0))

/-- Whether there is less left to do. -/
def Sooner : Nat × (Program RunCalls Ending × Nat) → Nat × (Program RunCalls Ending × Nat) → Prop :=
  Prod.Lex (· < ·) Less

theorem wellFounded_sooner : WellFounded Sooner :=
  Nat.lt_wfRel.wf.prod_lex wellFounded_less

theorem sooner_of_fewer (fewer : after.ahead ticket < before.ahead ticket) :
    Sooner (after.left ticket) (before.left ticket) := by
  have first : (after.left ticket).1 < (before.left ticket).1 := by
    simp only [left]
    split <;> split <;> omega
  exact Prod.lex_iff.mpr (Or.inl first)

theorem left_of_worker_eq (same : after.worker = before.worker)
    (fewer : after.ahead ticket ≤ before.ahead ticket) :
    after.left ticket = before.left ticket ∨ Sooner (after.left ticket) (before.left ticket) := by
  rcases Nat.eq_or_lt_of_le fewer with equal | less
  · left
    simp only [left, same, equal]
  · exact Or.inr (sooner_of_fewer less)

theorem tickets_eq_map_submitted (surveyor : Surveyor) :
    surveyor.tickets = surveyor.submitted.map Prod.snd := by
  simp [tickets, submitted, Function.comp_def]

/-- Requests join behind those that are pending. -/
theorem Admits.ahead_le {jobs : List Job} (admits : Admits before jobs after)
    (known : ticket < before.accepted) : after.ahead ticket ≤ before.ahead ticket := by
  have behind : (((jobs.zipIdx before.accepted).map Prod.snd).countP (· < ticket)) = 0 := by
    rw [List.countP_eq_zero]
    intro other member
    simp only [List.zipIdx_map_snd, List.mem_range'_1] at member
    simp only [decide_eq_true_eq]
    omega
  have fewer := (admits.submitted.map Prod.snd).countP_le (p := (· < ticket))
  rw [List.map_append, List.countP_append, behind, Nat.add_zero] at fewer
  simpa only [ahead, tickets_eq_map_submitted] using fewer

/-! ## A surveyor that was stopped -/

/-- A step that accepts nothing once the surveyor is stopping. -/
structure Shuts (before : Surveyor) (step : Surveyor × List Signal) : Prop where
  isStopping : before.isStopping → step.1.isStopping
  tickets : before.isStopping → step.1.tickets = before.tickets

theorem shuts_of_alike (alike : Alike before after)
    (isStopping : before.isStopping → after.isStopping) : Shuts before (after, []) :=
  ⟨isStopping, fun _ => alike.tickets⟩

theorem shuts_submit (surveyor : Surveyor) (job : Job) :
    Shuts surveyor (surveyor.submit job).2 := by
  constructor
  · intro stopping
    rw [submit_of_isStopping stopping]
    exact stopping
  · intro stopping
    rw [submit_of_isStopping stopping]
    rfl

theorem composable_shuts : Composable Shuts where
  trans first second :=
    { isStopping := fun stopping => second.isStopping (first.isStopping stopping)
      tickets := fun stopping =>
        (second.tickets (first.isStopping stopping)).trans (first.tickets stopping) }
  timer _ _ := ⟨id, fun _ => rfl⟩
  cancelWhere surveyor test := shuts_of_alike (alike_cancelWhere test surveyor) id
  submit := shuts_submit

theorem shuts_act (turn : Turn) (others : ¬turn.isWork) (surveyor : Surveyor) :
    Shuts surveyor (turn.act surveyor) := by
  cases turn with
  | discover request surroundings => exact shuts_submit surveyor _
  | register request surroundings => exact shuts_submit surveyor _
  | cancel id => exact composable_shuts.cancelWhere surveyor (hasId id)
  | configure mode config surroundings now =>
      exact shuts_of_alike (alike_configure mode config surroundings now surveyor)
        (isStopping_configure surveyor mode config surroundings now).trans
  | scan now => exact composable_shuts.timer surveyor _
  | shutDown => exact shuts_of_alike (alike_stop surveyor) fun _ => rfl
  | fire now => exact composable_shuts.fire surveyor now
  | take now => contradiction
  | resume now wake => contradiction

/-! ## Surveyors that get on -/

/-- A surveyor whose worker has finitely many probes ahead of it, and which has no requests once
the worker has stopped. -/
structure Lively (surveyor : Surveyor) : Prop where
  orderly : Orderly surveyor
  bounded : ∀ ticket job activity, surveyor.worker = .running ticket job activity →
    activity.Bounded
  stopped : surveyor.worker = .stopped → surveyor.isStopping ∧ surveyor.tickets = []

theorem lively_start (discoverer : Settings.Discoverer)
    (capacity initialDelay reportInterval : Nat) (isContainer : Bool) (now : Nat) :
    Lively (start discoverer capacity initialDelay reportInterval isContainer now) where
  orderly := orderly_start discoverer capacity initialDelay reportInterval isContainer now
  bounded _ _ _ works := by contradiction
  stopped isStopped := by contradiction

/-- A worker that settles has not stopped, and waits with finitely many probes ahead of it. -/
theorem lively_settle (begun : Begun surveyor ticket) (now : Nat) (job : Job)
    {step : List Event × Status}
    (bounded : ∀ activity, step.2 = .waiting activity → activity.Bounded) :
    Lively (surveyor.settle now ticket job step).1 := by
  have orderly := orderly_settle begun now job step
  rcases step with ⟨events, activity | ending⟩
  · constructor
    · exact orderly
    · intro other twin sameActivity works
      obtain ⟨-, -, rfl⟩ := Worker.running.inj works
      exact bounded _ rfl
    · intro isStopped
      contradiction
  · have idle : (surveyor.finish now ticket job ending).worker = .idle :=
      (alike_finish surveyor now ticket job ending).worker
    constructor
    · exact orderly
    · intro other twin activity works
      rw [settle, idle] at works
      contradiction
    · intro isStopped
      rw [settle, idle] at isStopped
      contradiction

theorem lively_take (lively : Lively surveyor) (now : Moment) : Lively (surveyor.take now).1 := by
  have orderly := (keeps_take lively.orderly now).orderly
  have taken := takes lively.orderly now
  generalize surveyor.take now = step at taken orderly ⊢
  cases taken with
  | busy works => exact lively
  | rests idle nothing => exact lively
  | retires idle stopping =>
      have drained := drained_retire lively.orderly idle
      constructor
      · exact orderly
      · intro ticket job activity works
        rw [drained.worker] at works
        contradiction
      · intro _
        exact ⟨(isStopping_drain _ _).trans stopping,
          by rw [tickets, drained.pending, List.map_nil]⟩
  | begins ticket rest job idle queued found =>
      apply lively_settle (Begun.of_taken lively.orderly idle queued)
      intro activity waits
      exact Survey.bounded_of_advance (Survey.finite_run _) waits

theorem lively_resume (lively : Lively surveyor) (now : Moment) (wake : Wake) :
    Lively (surveyor.resume now wake).1 := by
  have resumed := resumes surveyor now wake
  generalize surveyor.resume now wake = step at resumed ⊢
  cases resumed with
  | settles ticket job activity works =>
      apply lively_settle (Begun.of_orderly lively.orderly works)
      intro further waits
      exact (Survey.progresses_of_resume (lively.bounded ticket job activity works) waits).bounded
  | rests => exact lively

theorem lively_act (lively : Lively surveyor) (turn : Turn) : Lively (turn.act surveyor).1 := by
  by_cases works : turn.isWork
  · cases turn with
    | take now => exact lively_take lively now
    | resume now wake => exact lively_resume lively now wake
    | _ => contradiction
  · have same := (aside_act turn works surveyor).worker
    have shuts := shuts_act turn works surveyor
    constructor
    · exact (keeps_act lively.orderly turn).orderly
    · intro ticket job activity runs
      exact lively.bounded ticket job activity (same ▸ runs)
    · intro isStopped
      obtain ⟨stopping, gone⟩ := lively.stopped (same ▸ isStopped)
      exact ⟨shuts.isStopping stopping, (shuts.tickets stopping).trans gone⟩

theorem lively_play (lively : Lively surveyor) (turns : List Turn) :
    Lively (play turns surveyor).1 := by
  induction turns generalizing surveyor with
  | nil => exact lively
  | cons turn rest ih => exact ih (lively_act lively turn)

/-! ## Turns -/

/-- Once the first request has left, those behind it have fewer in front of them. -/
theorem ahead_settle (begun : Begun surveyor ticket) (now : Nat) (job : Job)
    {step : List Event × Status} {ending : Ending} (ended : step.2 = .ended ending) {other : Nat}
    (stays : other ∈ (surveyor.settle now ticket job step).1.tickets) :
    (surveyor.settle now ticket job step).1.ahead other < surveyor.ahead other := by
  rcases step with ⟨events, status⟩
  cases ended
  have left : (surveyor.finish now ticket job ending).tickets = surveyor.queue := by
    rw [(alike_finish surveyor now ticket job ending).tickets, tickets_released begun ending]
  have increasing := begun.increasing
  rw [begun.tickets_eq, List.pairwise_cons] at increasing
  have inFront : ticket < other := increasing.1 other (left ▸ stays)
  simp only [settle, ahead, left, begun.tickets_eq, List.countP_cons, inFront, decide_true, if_true]
  exact Nat.lt_succ_self _

/-- A worker that begins a request has less left to do, and so has one that lets a request go. -/
theorem sooner_take (orderly : Orderly surveyor) (now : Moment) (idle : surveyor.worker = .idle)
    (pending : ticket ∈ surveyor.tickets) (stays : ticket ∈ (surveyor.take now).1.tickets) :
    Sooner ((surveyor.take now).1.left ticket) (surveyor.left ticket) := by
  have taken := takes orderly now
  generalize surveyor.take now = step at taken stays ⊢
  cases taken with
  | busy works => contradiction
  | retires _ stopping =>
      rw [tickets, (drained_retire orderly idle).pending] at stays
      contradiction
  | rests _ nothing =>
      rw [tickets_eq_queue orderly idle, nothing] at pending
      contradiction
  | begins first rest job _ queued found =>
      have begun := Begun.of_taken orderly idle queued
      simp only [Surveyor.begin] at stays ⊢
      generalize advance _ _ _ = step at stays ⊢
      rcases step with ⟨events, activity | ending⟩
      · apply Prod.lex_iff.mpr
        left
        simp only [settle, left, idle]
        exact Nat.lt_succ_self _
      · exact sooner_of_fewer (ahead_settle begun now.millis job rfl stays)

theorem lowers_take (orderly : Orderly surveyor) (now : Moment)
    (pending : ticket ∈ surveyor.tickets) (stays : ticket ∈ (surveyor.take now).1.tickets) :
    Lowers Sooner (Turn.Awaited (.take now) surveyor) (surveyor.left ticket)
      ((surveyor.take now).1.left ticket) := by
  cases works : surveyor.worker with
  | idle => exact .of_less (sooner_take orderly now works pending stays)
  | running first job activity =>
      simp only [take, works, Turn.Awaited]
      apply Lowers.still
      rintro ⟨_, _, ⟨⟩, -⟩
  | stopped =>
      simp only [take, works, Turn.Awaited]
      exact .still _ id

theorem lowers_resume (lively : Lively surveyor) (now : Moment) (wake : Wake)
    (stays : ticket ∈ (surveyor.resume now wake).1.tickets) :
    Lowers Sooner (Turn.Awaited (.resume now wake) surveyor) (surveyor.left ticket)
      ((surveyor.resume now wake).1.left ticket) := by
  cases works : surveyor.worker with
  | idle =>
      simp only [resume, works, Turn.Awaited]
      apply Lowers.still
      rintro ⟨_, ⟨⟩⟩
  | stopped =>
      simp only [resume, works, Turn.Awaited]
      exact .still _ id
  | running first job activity =>
      have begun := Begun.of_orderly lively.orderly works
      have progresses : ∀ further,
          (activity.resume now.timestamp (surveyor.isCancelled first) wake).2 = .waiting further →
          activity.Progresses (activity.Awaits (surveyor.isCancelled first) wake) further :=
        fun _ => Survey.progresses_of_resume (lively.bounded first job activity works)
      rw [resume_of_running works] at stays ⊢
      generalize activity.resume _ _ _ = step at stays progresses ⊢
      rcases step with ⟨events, further | ending⟩
      · have lowers := (progresses further rfl).lowers
        have leftBefore : surveyor.left ticket = (2 * surveyor.ahead ticket, activity.left) := by
          simp only [left, works]
        rw [leftBefore]
        constructor
        · rcases lowers.kept with same | less
          · exact Or.inl (congrArg (Prod.mk _) same)
          · exact Or.inr (Prod.Lex.right _ less)
        · simp only [Turn.Awaited, works]
          rintro ⟨_, _, ⟨⟩, awaits⟩
          exact Prod.Lex.right _ (lowers.less awaits)
      · exact .of_less (sooner_of_fewer (ahead_settle begun now.millis job rfl stays))

/-- Nothing is to be done in addition until a request leaves, whoever takes a turn. -/
theorem lowers_act (lively : Lively surveyor) (turn : Turn) (pending : ticket ∈ surveyor.tickets)
    (stays : ticket ∈ (turn.act surveyor).1.tickets) :
    Lowers Sooner (turn.Awaited surveyor) (surveyor.left ticket)
      ((turn.act surveyor).1.left ticket) := by
  by_cases works : turn.isWork
  · cases turn with
    | take now => exact lowers_take lively.orderly now pending stays
    | resume now wake => exact lowers_resume lively now wake stays
    | _ => contradiction
  · have known := lively.orderly.below ticket pending
    have fewer := (admits_act lively.orderly turn).ahead_le known
    constructor
    · exact left_of_worker_eq (aside_act turn works surveyor).worker fewer
    · intro awaited
      unfold Turn.Awaited at awaited
      split at awaited
      · obtain ⟨_, rfl⟩ := awaited
        exact absurd rfl works
      · obtain ⟨_, _, rfl, -⟩ := awaited
        exact absurd rfl works
      · contradiction

/-- No request stays pending, from any time on, in a sequence in which the worker gets what it
waits for. -/
theorem exists_gone {turns : Nat → Turn} (lively : Lively surveyor) (fair : surveyor.Fair turns)
    (moment ticket : Nat) :
    ∃ later, moment ≤ later ∧ ticket ∉ (play (opening turns later) surveyor).1.tickets := by
  by_contra never
  have stays : ∀ steps, ticket ∈ (play (opening turns (moment + steps)) surveyor).1.tickets := by
    intro steps
    by_contra gone
    exact never ⟨moment + steps, Nat.le_add_right _ _, gone⟩
  apply not_lowers_forever wellFounded_sooner
    (fun steps =>
      (turns (moment + steps)).Awaited (play (opening turns (moment + steps)) surveyor).1)
    (fun steps => (play (opening turns (moment + steps)) surveyor).1.left ticket)
  · intro steps
    have next := stays (steps + 1)
    rw [← Nat.add_assoc, play_opening_succ] at next ⊢
    exact lowers_act (lively_play lively _) _ (stays steps) next
  · intro steps
    obtain ⟨later, order, stopped | awaited⟩ := fair (moment + steps)
    · obtain ⟨more, rfl⟩ := Nat.exists_eq_add_of_le (Nat.le_of_add_right_le order)
      have nobody := ((lively_play lively _).stopped stopped).2
      have still := stays more
      rw [nobody] at still
      contradiction
    · obtain ⟨more, rfl⟩ := Nat.exists_eq_add_of_le (Nat.le_of_add_right_le order)
      exact ⟨more, Nat.add_le_add_iff_left.mp order, awaited⟩

end FieldSurvey.Surveyor
