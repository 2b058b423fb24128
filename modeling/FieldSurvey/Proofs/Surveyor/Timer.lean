import FieldSurvey.Proofs.Surveyor.Alarm
import FieldSurvey.Proofs.Surveyor.Chronicle

/-!
# The rescan timer and its tasks

Whatever is done to a timer, and in whatever order its tasks are polled, they do what the chronicle
of the timer demands: one firing for every arming that nothing revokes before it is due, at that
moment, and no other firing.
-/

namespace FieldSurvey.Surveyor.Clockwork

/-- The tasks, the timer that stands for them, and the chronicle agree. -/
structure Sound (clockwork : Clockwork) : Prop where
  tells : clockwork.chronicle.Tells clockwork.now clockwork.timer
  serves :
    clockwork.alarm.Serves clockwork.calling clockwork.now clockwork.timer.dueAt
  isShutDown : clockwork.alarm.isShutDown = clockwork.timer.isShutDown

variable {clockwork next : Clockwork}

theorem sound_start (now : Nat) : Sound { now := now } where
  tells := .nil now
  serves :=
    { handle_lt := fun held isHeld => by contradiction
      calling_lt := fun task calls => by contradiction
      live := fun held isHeld => by contradiction
      idle := fun task _ _ => .inl rfl
      held := fun held isHeld => by contradiction
      free := fun _ => rfl
      asleep := fun held wakesAt isHeld => by contradiction }
  isShutDown := rfl

namespace Sound

theorem arm (sound : clockwork.Sound) (quiet : clockwork.timer.isDue clockwork.now = false)
    (delay : Nat) : (clockwork.obey (.arm delay)).Sound where
  tells := sound.tells.obey quiet (.arm delay)
  serves := by
    cases shut : clockwork.timer.isShutDown with
    | true => simpa [sound.isShutDown, shut] using sound.serves
    | false => simpa [shut] using sound.serves.arm (sound.isShutDown.trans shut) delay
  isShutDown := by simp [sound.isShutDown]

/-- Where the timer is to be armed unless it is armed, the tasks and the timer that stands for them
come to the same: either both are armed, or nothing is done. -/
theorem ensureArmed_cases (sound : clockwork.Sound) (idle : clockwork.calling = none)
    (delay : Nat) :
    (clockwork.alarm.ensureArmed delay = clockwork.alarm ∧
      clockwork.timer.ensureArmed clockwork.now delay = clockwork.timer) ∨
    (clockwork.alarm.ensureArmed delay = clockwork.alarm.arm delay ∧
      clockwork.timer.ensureArmed clockwork.now delay =
        clockwork.timer.arm clockwork.now delay) := by
  cases shut : clockwork.timer.isShutDown with
  | true => left; simp [sound.isShutDown, shut]
  | false =>
      have serves := sound.serves
      rw [idle] at serves
      have same : clockwork.alarm.isArmed = clockwork.timer.isArmed :=
        serves.isArmed_eq (sound.isShutDown.trans shut)
      cases armed : clockwork.timer.isArmed with
      | true => left; simp [same, armed]
      | false => right; simp [same, armed]

theorem ensureArmed (sound : clockwork.Sound) (idle : clockwork.calling = none)
    (quiet : clockwork.timer.isDue clockwork.now = false) (delay : Nat) :
    (clockwork.obey (.ensureArmed delay)).Sound := by
  have armed := sound.arm quiet delay
  rcases sound.ensureArmed_cases idle delay with ⟨alarm, timer⟩ | ⟨alarm, timer⟩
  · exact
      { tells := sound.tells.obey quiet (.ensureArmed delay)
        serves := by simpa [alarm, timer] using sound.serves
        isShutDown := by simpa [alarm, timer] using sound.isShutDown }
  · exact
      { tells := sound.tells.obey quiet (.ensureArmed delay)
        serves := by simpa [alarm, timer] using armed.serves
        isShutDown := by simpa [alarm, timer] using armed.isShutDown }

theorem obey (sound : clockwork.Sound) (idle : clockwork.calling = none)
    (quiet : clockwork.timer.isDue clockwork.now = false) (command : Command) :
    (clockwork.obey command).Sound := by
  cases command with
  | arm delay => exact sound.arm quiet delay
  | ensureArmed delay => exact sound.ensureArmed idle quiet delay
  | stop => exact ⟨sound.tells.stopped quiet, sound.serves.stop, sound.isShutDown⟩
  | shutDown =>
      exact ⟨sound.tells.shutDown quiet,
        sound.serves.shutDown fun _ isDue => Timer.lt_of_dueAt quiet isDue, rfl⟩

/-- What a step of the clockwork keeps. -/
theorem step (sound : clockwork.Sound) (steps : clockwork.Step next) : next.Sound := by
  cases steps with
  | asks command idle quiet => exact sound.obey idle quiet command
  | rearms task delay calls quiet => exact sound.arm quiet delay
  | sleeps task delay apart spawned live isOpen =>
      exact ⟨sound.tells, sound.serves.sleeps apart spawned live isOpen, sound.isShutDown⟩
  | fires task wakesAt idle sleeps woken live =>
      have serves := sound.serves
      rw [idle] at serves
      obtain ⟨isDue, calls⟩ := serves.fires sleeps woken live
      have now : wakesAt = clockwork.now :=
        Nat.le_antisymm woken (sound.tells.ahead wakesAt isDue)
      exact ⟨sound.tells.fired (now ▸ isDue), calls, sound.isShutDown⟩
  | returns task calls =>
      have serves := sound.serves
      rw [calls] at serves
      exact ⟨sound.tells, serves.returns, sound.isShutDown⟩
  | ends task apart dismissed =>
      exact ⟨sound.tells, sound.serves.ends apart dismissed, sound.isShutDown⟩
  | passes later rest since ahead =>
      obtain ⟨idle, rest⟩ := rest
      have serves := sound.serves
      rw [idle] at serves
      refine ⟨sound.tells.passes since fun due isDue => ?_, ?_, sound.isShutDown⟩
      · obtain ⟨-, held, -, sleeps⟩ := serves.exists_asleep rest isDue
        exact ahead held due sleeps
      · exact idle ▸ serves.passes rest later

end Sound

theorem Reached.sound (reached : clockwork.Reached) : clockwork.Sound := by
  induction reached with
  | start now => exact sound_start now
  | step _ steps ih => exact ih.step steps

/-- Whatever is ready to run can run. -/
theorem exists_step_of_not_atRest (busy : ¬clockwork.AtRest) : ∃ next, clockwork.Step next := by
  cases calling : clockwork.calling with
  | some task => exact ⟨_, .returns task calling⟩
  | none =>
      have apart : ∀ task, clockwork.calling ≠ some task := by simp [calling]
      have ready : ∃ task, (clockwork.alarm.tasks task).IsReady clockwork.alarm.isShutDown
          clockwork.now := by
        by_contra rest
        exact busy ⟨calling, not_exists.mp rest⟩
      obtain ⟨task, ready⟩ := ready
      by_cases dismissed : (clockwork.alarm.tasks task).isAborted ∨ clockwork.alarm.isShutDown
      · exact ⟨_, .ends task (apart task) dismissed⟩
      · simp only [not_or, Bool.not_eq_true] at dismissed
        obtain ⟨live, isOpen⟩ := dismissed
        unfold AlarmTask.IsReady at ready
        split at ready
        · rename_i delay spawned
          exact ⟨_, .sleeps task delay (apart task) spawned live isOpen⟩
        · rename_i wakesAt sleeps
          have woken : wakesAt ≤ clockwork.now := by simpa [live, isOpen] using ready
          exact ⟨_, .fires task wakesAt calling sleeps woken live⟩
        · contradiction

/-- Whatever is done to a timer and whichever tasks are polled, the timer has fired whenever its
chronicle demanded it, and is yet to fire once at most, which is when the timer that stands for
the tasks is due.  While no task is ready to run, all firings that were due are made, and the timer
is armed exactly if one is still to come. -/
theorem timer_meets_chronicle (reached : clockwork.Reached) :
    clockwork.chronicle.dues Timer.bounded =
      clockwork.chronicle.firings ++ clockwork.timer.dueAt.toList ∧
    (∀ due, clockwork.timer.dueAt = some due → clockwork.now ≤ due) ∧
    (clockwork.AtRest →
      clockwork.chronicle.firings =
        (clockwork.chronicle.dues Timer.bounded).filter (· ≤ clockwork.now) ∧
      (clockwork.alarm.isArmed ↔
        ∃ due ∈ clockwork.chronicle.dues Timer.bounded, clockwork.now < due) ∧
      clockwork.timer.isArmed = clockwork.alarm.isArmed) := by
  have sound := reached.sound
  refine ⟨sound.tells.dues_eq, sound.tells.ahead, fun atRest => ?_⟩
  obtain ⟨idle, rest⟩ := atRest
  have serves := sound.serves
  rw [idle] at serves
  have later : ∀ due, clockwork.timer.dueAt = some due → clockwork.now < due :=
    fun due isDue => (serves.exists_asleep rest isDue).1
  have quiet : clockwork.timer.isDue clockwork.now = false := by
    cases dueAt : clockwork.timer.dueAt with
    | none => simp [Timer.isDue, dueAt]
    | some due => simp [Timer.isDue, dueAt, later due dueAt]
  have armed := serves.isArmed_of_rest rest
  refine ⟨(sound.tells.dues_filter quiet).symm, ?_, armed.symm⟩
  rw [armed, sound.tells.dues_eq]
  constructor
  · intro isArmed
    obtain ⟨due, isDue⟩ := Option.isSome_iff_exists.mp isArmed
    exact ⟨due, by simp [isDue], later due isDue⟩
  · rintro ⟨due, member, toCome⟩
    rcases List.mem_append.mp member with made | outstanding
    · exact absurd (sound.tells.past due made) (Nat.not_le_of_lt toCome)
    · rw [Option.isSome_iff_exists]
      exact ⟨due, Option.mem_toList.mp outstanding⟩

/-- A timer that has fired and was armed anew by what it called back. -/
def rearmed : Clockwork :=
  ((((((({} : Clockwork).obey (.arm 20)).enter 0 (.asleep 20)).wait 20).fire 0).obey
    (.arm 10)).return_ 0).enter 1 (.asleep 30)

theorem rearmed_timer_meets_chronicle :
    rearmed.Reached ∧ rearmed.AtRest ∧
    rearmed.chronicle.firings =
      (rearmed.chronicle.dues Timer.bounded).filter (· ≤ rearmed.now) ∧
    rearmed.timer.isArmed = rearmed.alarm.isArmed := by
  have armed : (({} : Clockwork).obey (.arm 20)).Reached :=
    .step (.start 0) (.asks (.arm 20) rfl rfl)
  have asleep : ((({} : Clockwork).obey (.arm 20)).enter 0 (.asleep 20)).Reached :=
    armed.step (.sleeps 0 20 (by decide) rfl rfl rfl)
  have still : ((({} : Clockwork).obey (.arm 20)).enter 0 (.asleep 20)).AtRest := by
    refine ⟨rfl, ?_⟩
    rintro (_ | task)
    · decide
    · exact id
  have woken := asleep.step <| .passes 20 still (by decide) <| by
    rintro (_ | task) wakesAt sleeps <;> cases sleeps
    decide
  have called := woken.step (.fires 0 20 rfl rfl (by decide) rfl)
  have again := called.step (.rearms 0 10 rfl rfl)
  have returned := again.step (.returns 0 rfl)
  have reached : rearmed.Reached := returned.step (.sleeps 1 10 (by decide) rfl rfl rfl)
  have rest : rearmed.AtRest := by
    refine ⟨rfl, ?_⟩
    rintro (_ | _ | task)
    · exact id
    · decide
    · exact id
  obtain ⟨-, -, met⟩ := timer_meets_chronicle reached
  exact ⟨reached, rest, (met rest).1, (met rest).2.2⟩

/-- A timer that was armed for thirty years and a millisecond. -/
def overlong : Clockwork :=
  ((((({} : Clockwork).obey (.arm (Timer.longestDelay + 1))).enter 0
    (.asleep Timer.longestDelay)).wait Timer.longestDelay).fire 0).return_ 0

/-- The timer has fired by now, but not when the arming demands it, a millisecond later. -/
theorem overlong_timer_fires_early :
    overlong.Reached ∧ overlong.AtRest ∧
    overlong.chronicle.firings ≠ (overlong.chronicle.dues id).filter (· ≤ overlong.now) := by
  have armed : (({} : Clockwork).obey (.arm (Timer.longestDelay + 1))).Reached :=
    .step (.start 0) (.asks (.arm (Timer.longestDelay + 1)) rfl rfl)
  have asleep : ((({} : Clockwork).obey (.arm (Timer.longestDelay + 1))).enter 0
      (.asleep Timer.longestDelay)).Reached :=
    armed.step (.sleeps 0 (Timer.longestDelay + 1) (by decide) rfl rfl rfl)
  have still : ((({} : Clockwork).obey (.arm (Timer.longestDelay + 1))).enter 0
      (.asleep Timer.longestDelay)).AtRest := by
    refine ⟨rfl, ?_⟩
    rintro (_ | task)
    · decide
    · exact id
  have woken := asleep.step <| .passes Timer.longestDelay still (by decide) <| by
    rintro (_ | task) wakesAt sleeps <;> cases sleeps
    exact Nat.le_refl _
  have called := woken.step (.fires 0 Timer.longestDelay rfl rfl (by decide) rfl)
  have reached : overlong.Reached := called.step (.returns 0 rfl)
  refine ⟨reached, ⟨rfl, ?_⟩, by decide⟩
  rintro (_ | task) <;> exact id

end FieldSurvey.Surveyor.Clockwork
