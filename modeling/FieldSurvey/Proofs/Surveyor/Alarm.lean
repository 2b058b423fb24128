import FieldSurvey.Surveyor.Clockwork

/-!
# The tasks of a timer

Of all tasks only the one that is held is to call back, and at the moment at which it is due.
-/

namespace FieldSurvey.Surveyor.Alarm

/-- Whether an alarm, while one of its tasks may be calling back, is to call back at one moment and
no other: the task that is held is, and all others end without calling back. -/
structure Serves (alarm : Alarm) (calling : Option Nat) (now : Nat) (due : Option Nat) : Prop where
  handle_lt : ∀ held, alarm.handle = some held → held < alarm.spawned
  calling_lt : ∀ task, calling = some task → task < alarm.spawned
  live : ∀ held, alarm.handle = some held → (alarm.tasks held).isAborted = false
  idle : ∀ task, alarm.handle ≠ some task → calling ≠ some task →
    (alarm.tasks task).phase = .ended ∨ (alarm.tasks task).isAborted
  held : ∀ held, alarm.handle = some held → calling ≠ some held →
    due = if alarm.isShutDown then none else (alarm.tasks held).dueAt? now
  free : alarm.handle = none ∨ alarm.handle = calling → due = none
  /-- a task that was told to end is not called back meanwhile -/
  asleep : ∀ held wakesAt, alarm.handle = some held → calling ≠ some held → alarm.isShutDown →
    (alarm.tasks held).phase = .asleep wakesAt → now < wakesAt

section Serves

variable {alarm : Alarm} {calling : Option Nat} {now : Nat} {due : Option Nat}

namespace Serves

/-- Once the task is aborted that is held, no task is to call back. -/
theorem aborting (serves : alarm.Serves calling now due) (task : Nat)
    (apart : calling ≠ some task) :
    (alarm.aborting task).phase = .ended ∨ (alarm.aborting task).isAborted := by
  by_cases isHeld : alarm.handle = some task
  · exact .inr (by simp [isHeld])
  · rcases serves.idle task isHeld apart with ended | aborted
    · exact .inl ended
    · exact .inr (by simp [aborted])

theorem arm (serves : alarm.Serves calling now due) (isOpen : alarm.isShutDown = false)
    (delay : Nat) : (alarm.arm delay).Serves calling now (some (now + Timer.bounded delay)) := by
  have fresh : calling ≠ some alarm.spawned := fun calls =>
    Nat.lt_irrefl _ (serves.calling_lt _ calls)
  rw [arm_of_isOpen isOpen]
  refine
    { handle_lt := fun held isHeld => Option.some.inj isHeld ▸ Nat.lt_succ_self _
      calling_lt := fun task calls => Nat.lt_succ_of_lt (serves.calling_lt task calls)
      live := fun held isHeld => ?_
      idle := fun task unheld apart => ?_
      held := fun held isHeld apart => ?_
      free := fun free => ?_
      asleep := fun held wakesAt isHeld apart isShutDown => ?_ }
  · obtain rfl := Option.some.inj isHeld
    simp
  · have other : task ≠ alarm.spawned := fun same => unheld (same ▸ rfl)
    dsimp only
    rw [Function.update_of_ne other]
    exact serves.aborting task apart
  · obtain rfl := Option.some.inj isHeld
    simp [isOpen]
  · rcases free with unheld | same
    · contradiction
    · exact absurd same.symm fresh
  · simp [isOpen] at isShutDown

theorem stop (serves : alarm.Serves calling now due) : alarm.stop.Serves calling now none where
  handle_lt held isHeld := by contradiction
  calling_lt := serves.calling_lt
  live held isHeld := by contradiction
  idle task _ apart := serves.aborting task apart
  held held isHeld := by contradiction
  free _ := rfl
  asleep held wakesAt isHeld := by contradiction

theorem shutDown (serves : alarm.Serves calling now due)
    (ahead : ∀ moment, due = some moment → now < moment) :
    alarm.shutDown.Serves calling now none where
  handle_lt := serves.handle_lt
  calling_lt := serves.calling_lt
  live := serves.live
  idle := serves.idle
  held held isHeld apart := rfl
  free _ := rfl
  asleep held wakesAt isHeld apart _ sleeps := by
    by_cases shut : alarm.isShutDown
    · exact serves.asleep held wakesAt isHeld apart shut sleeps
    · apply ahead
      rw [serves.held held isHeld apart, if_neg shut]
      exact AlarmTask.dueAt?_of_asleep sleeps

/-- While no task calls back, the alarm is armed exactly if it is to call back. -/
theorem isArmed_eq (serves : alarm.Serves none now due) (isOpen : alarm.isShutDown = false) :
    alarm.isArmed = due.isSome := by
  unfold isArmed
  cases isHeld : alarm.handle with
  | none => rw [serves.free (.inl isHeld)]; rfl
  | some held =>
      rw [serves.held held isHeld (by simp), isOpen]
      cases phase : (alarm.tasks held).phase <;> simp [phase]

variable {task : Nat}

/-- No task is at work but the one that is held. -/
theorem isHeld (serves : alarm.Serves calling now due) (apart : calling ≠ some task)
    (working : (alarm.tasks task).phase ≠ .ended) (live : (alarm.tasks task).isAborted = false) :
    alarm.handle = some task := by
  by_contra unheld
  rcases serves.idle task unheld apart with ended | aborted
  · exact working ended
  · rw [live] at aborted
    contradiction

/-- A task that was aborted or told to end ends without calling back. -/
theorem ends (serves : alarm.Serves calling now due) (apart : calling ≠ some task)
    (dismissed : (alarm.tasks task).isAborted ∨ alarm.isShutDown) :
    (alarm.enter task .ended).Serves calling now due := by
  refine
    { handle_lt := serves.handle_lt
      calling_lt := serves.calling_lt
      live := fun held isHeld => ?_
      idle := fun other unheld otherApart => ?_
      held := fun held isHeld heldApart => ?_
      free := serves.free
      asleep := fun held wakesAt isHeld heldApart isShutDown sleeps => ?_ }
  · by_cases same : held = task
    · subst same
      simpa using serves.live held isHeld
    · simpa [same] using serves.live held isHeld
  · by_cases same : other = task
    · exact .inl (by simp [same])
    · simpa [same] using serves.idle other unheld otherApart
  · by_cases same : held = task
    · subst same
      have shut : alarm.isShutDown := by
        rcases dismissed with aborted | shut
        · rw [serves.live held isHeld] at aborted
          contradiction
        · exact shut
      simpa [shut] using serves.held held isHeld heldApart
    · simpa [same] using serves.held held isHeld heldApart
  · by_cases same : held = task
    · simp [same] at sleeps
    · refine serves.asleep held wakesAt isHeld heldApart isShutDown ?_
      simpa [same] using sleeps

/-- A task that is polled first goes to sleep until it is to call back. -/
theorem sleeps (serves : alarm.Serves calling now due) (apart : calling ≠ some task) {delay : Nat}
    (spawned : (alarm.tasks task).phase = .spawned delay)
    (live : (alarm.tasks task).isAborted = false) (isOpen : alarm.isShutDown = false) :
    (alarm.enter task (.asleep (now + Timer.bounded delay))).Serves calling now due := by
  have isHeld := serves.isHeld apart (by simp [spawned]) live
  refine
    { handle_lt := serves.handle_lt
      calling_lt := serves.calling_lt
      live := fun held heldNow => ?_
      idle := fun other unheld otherApart => ?_
      held := fun held heldNow heldApart => ?_
      free := serves.free
      asleep := fun held wakesAt heldNow heldApart isShutDown sleeps => ?_ }
  · obtain rfl := Option.some.inj (isHeld.symm.trans heldNow)
    simpa using live
  · have other_ne : other ≠ task := fun same => unheld (same ▸ isHeld)
    simpa [other_ne] using serves.idle other unheld otherApart
  · obtain rfl := Option.some.inj (isHeld.symm.trans heldNow)
    simpa [isOpen, spawned] using serves.held task isHeld apart
  · exact absurd (isOpen ▸ isShutDown : false = true) Bool.false_ne_true

/-- Only the task that is held calls back, and at the moment at which the alarm is to. -/
theorem fires (serves : alarm.Serves none now due) {wakesAt : Nat}
    (sleeps : (alarm.tasks task).phase = .asleep wakesAt) (woken : wakesAt ≤ now)
    (live : (alarm.tasks task).isAborted = false) :
    due = some wakesAt ∧ alarm.Serves (some task) now none := by
  have isHeld := serves.isHeld (by simp) (by simp [sleeps]) live
  have isOpen : ¬alarm.isShutDown := fun shut =>
    Nat.not_le_of_lt (serves.asleep task wakesAt isHeld (by simp) shut sleeps) woken
  constructor
  · rw [serves.held task isHeld (by simp), if_neg isOpen]
    exact AlarmTask.dueAt?_of_asleep sleeps
  · exact
      { handle_lt := serves.handle_lt
        calling_lt := fun other calls => serves.handle_lt other (isHeld.trans calls)
        live := serves.live
        idle := fun other unheld _ => serves.idle other unheld (by simp)
        held := fun held heldNow apart => absurd (isHeld.symm.trans heldNow) apart
        free := fun _ => rfl
        asleep := fun held _ heldNow apart => absurd (isHeld.symm.trans heldNow) apart }

/-- The task that has called back ends. -/
theorem returns (serves : alarm.Serves (some task) now due) :
    (alarm.enter task .ended).Serves none now due := by
  refine
    { handle_lt := serves.handle_lt
      calling_lt := fun other calls => by contradiction
      live := fun held isHeld => ?_
      idle := fun other unheld _ => ?_
      held := fun held isHeld _ => ?_
      free := fun free => serves.free (.inl (free.elim id id))
      asleep := fun held wakesAt isHeld _ isShutDown sleeps => ?_ }
  · by_cases same : held = task
    · subst same
      simpa using serves.live held isHeld
    · simpa [same] using serves.live held isHeld
  · by_cases same : other = task
    · exact .inl (by simp [same])
    · simpa [same] using serves.idle other unheld (by simp [Ne.symm same])
  · by_cases same : held = task
    · subst same
      rw [serves.free (.inr isHeld)]
      simp
    · simpa [same] using serves.held held isHeld (by simp [Ne.symm same])
  · by_cases same : held = task
    · simp [same] at sleeps
    · exact serves.asleep held wakesAt isHeld (by simp [Ne.symm same]) isShutDown
        (by simpa [same] using sleeps)

/-- Where no task is ready to run, the task that is to call back is asleep until then. -/
theorem exists_asleep (serves : alarm.Serves none now due)
    (rest : ∀ task, ¬(alarm.tasks task).IsReady alarm.isShutDown now) {moment : Nat}
    (isDue : due = some moment) : now < moment ∧ ∃ held, alarm.handle = some held ∧
      (alarm.tasks held).phase = .asleep moment := by
  cases isHeld : alarm.handle with
  | none => rw [serves.free (.inl isHeld)] at isDue; contradiction
  | some held =>
      have same := serves.held held isHeld (by simp)
      have still := rest held
      rw [isDue] at same
      split at same
      · contradiction
      · cases phase : (alarm.tasks held).phase with
        | spawned delay => simp [phase] at still
        | asleep wakesAt =>
            simp only [AlarmTask.dueAt?_of_asleep phase, AlarmTask.isReady_iff_of_asleep phase,
              Option.some.injEq, not_or, Nat.not_le] at same still
            exact ⟨same ▸ still.2.2, held, rfl, same ▸ phase⟩
        | ended => simp [phase] at same

/-- Where no task is ready to run, the alarm is armed exactly if it is to call back, also after the
shutdown. -/
theorem isArmed_of_rest (serves : alarm.Serves none now due)
    (rest : ∀ task, ¬(alarm.tasks task).IsReady alarm.isShutDown now) :
    alarm.isArmed = due.isSome := by
  by_cases shut : alarm.isShutDown
  · unfold isArmed
    cases isHeld : alarm.handle with
    | none => rw [serves.free (.inl isHeld)]; rfl
    | some held =>
        have still := rest held
        rw [serves.held held isHeld (by simp), if_pos shut]
        cases phase : (alarm.tasks held).phase <;> simp [phase, shut] at still ⊢
  · exact serves.isArmed_eq (by simpa using shut)

theorem passes (serves : alarm.Serves none now due)
    (rest : ∀ task, ¬(alarm.tasks task).IsReady alarm.isShutDown now) (later : Nat) :
    alarm.Serves none later due := by
  refine
    { handle_lt := serves.handle_lt
      calling_lt := serves.calling_lt
      live := serves.live
      idle := serves.idle
      held := fun held isHeld apart => ?_
      free := serves.free
      asleep := fun held wakesAt isHeld apart isShutDown sleeps => ?_ }
  · rw [serves.held held isHeld apart]
    have still := rest held
    cases phase : (alarm.tasks held).phase with
    | spawned delay => simp [phase] at still
    | asleep wakesAt => simp [phase]
    | ended => simp [phase]
  · exact absurd (by simp [sleeps, isShutDown]) (rest held)

end Serves

end Serves

end FieldSurvey.Surveyor.Alarm
