import FieldSurvey.Surveyor.Chronicle
import Mathlib.Logic.Function.Basic

/-!
# A timer as it is made of tasks

A timer is armed by a task that sleeps and then calls back.  The task of the last
arming is held, to be aborted when the timer is armed anew or stopped; all tasks
end when the timer is shut down.  In a clockwork the tasks are polled in any order,
beside the timer that stands for them and the chronicle of what happens.
-/

namespace FieldSurvey.Surveyor

/-! ## Tasks -/

/-- How far the task of an arming has got. -/
inductive Phase where
  /-- it was not polled yet -/
  | spawned (delay : Nat)
  | asleep (wakesAt : Nat)
  | ended
  deriving DecidableEq

/-- The task of an arming. -/
structure AlarmTask where
  phase : Phase := .ended
  isAborted : Bool := false

namespace AlarmTask

/-- When a task is to call back. -/
def dueAt? (now : Nat) (task : AlarmTask) : Option Nat :=
  match task.phase with
  | .spawned delay => some (now + Timer.bounded delay)
  | .asleep wakesAt => some wakesAt
  | .ended => none

/-- Whether a task is ready to run. -/
def IsReady (isShutDown : Bool) (now : Nat) (task : AlarmTask) : Prop :=
  match task.phase with
  | .spawned _ => True
  | .asleep wakesAt => task.isAborted ∨ isShutDown ∨ wakesAt ≤ now
  | .ended => False

instance (isShutDown : Bool) (now : Nat) :
    (task : AlarmTask) → Decidable (task.IsReady isShutDown now)
  | ⟨.spawned _, _⟩ => isTrue trivial
  | ⟨.asleep wakesAt, isAborted⟩ =>
    inferInstanceAs (Decidable (isAborted ∨ isShutDown ∨ wakesAt ≤ now))
  | ⟨.ended, _⟩ => isFalse id

variable {task : AlarmTask} {isShutDown : Bool} {now delay wakesAt : Nat}

@[simp]
theorem dueAt?_of_spawned (spawned : task.phase = .spawned delay) :
    task.dueAt? now = some (now + Timer.bounded delay) := by
  rw [dueAt?, spawned]

@[simp]
theorem dueAt?_of_asleep (sleeps : task.phase = .asleep wakesAt) :
    task.dueAt? now = some wakesAt := by
  rw [dueAt?, sleeps]

@[simp]
theorem dueAt?_of_ended (ended : task.phase = .ended) : task.dueAt? now = none := by
  rw [dueAt?, ended]

@[simp]
theorem isReady_of_spawned (spawned : task.phase = .spawned delay) :
    task.IsReady isShutDown now := by
  rw [IsReady, spawned]
  trivial

@[simp]
theorem isReady_iff_of_asleep (sleeps : task.phase = .asleep wakesAt) :
    task.IsReady isShutDown now ↔ task.isAborted ∨ isShutDown ∨ wakesAt ≤ now := by
  rw [IsReady, sleeps]

@[simp]
theorem not_isReady_of_ended (ended : task.phase = .ended) : ¬task.IsReady isShutDown now := by
  rw [IsReady, ended]
  exact id

end AlarmTask

/-- A timer as it is made of tasks. -/
structure Alarm where
  tasks : Nat → AlarmTask := fun _ => {}
  /-- how many tasks there were -/
  spawned : Nat := 0
  /-- the task of the last arming, unless it was stopped -/
  handle : Option Nat := none
  isShutDown : Bool := false

namespace Alarm

/-- The alarm with one of its tasks in another phase. -/
def enter (task : Nat) (phase : Phase) (alarm : Alarm) : Alarm :=
  { alarm with
    tasks := Function.update alarm.tasks task { alarm.tasks task with phase } }

/-- The tasks, of which the one that is held is aborted. -/
def aborting (alarm : Alarm) (task : Nat) : AlarmTask :=
  { alarm.tasks task with
    isAborted := (alarm.tasks task).isAborted || alarm.handle == some task }

/-- Spawns a task that calls back after a delay, and aborts the one that it replaces. -/
def arm (delay : Nat) (alarm : Alarm) : Alarm :=
  if alarm.isShutDown then alarm
  else
    { alarm with
      tasks := Function.update alarm.aborting alarm.spawned { phase := .spawned delay }
      spawned := alarm.spawned + 1
      handle := some alarm.spawned }

/-- Whether the task that is held has not ended. -/
def isArmed (alarm : Alarm) : Bool :=
  alarm.handle.any fun held => (alarm.tasks held).phase ≠ .ended

/-- Arms the timer unless it is armed. -/
def ensureArmed (delay : Nat) (alarm : Alarm) : Alarm :=
  if alarm.isArmed then alarm else alarm.arm delay

/-- Lets the task go that is held, and aborts it. -/
def stop (alarm : Alarm) : Alarm :=
  { alarm with tasks := alarm.aborting, handle := none }

/-- Tells all tasks to end. -/
def shutDown (alarm : Alarm) : Alarm :=
  { alarm with isShutDown := true }

/-- The alarm after a command. -/
@[simp]
def obey (alarm : Alarm) : Command → Alarm
  | .arm delay => alarm.arm delay
  | .ensureArmed delay => alarm.ensureArmed delay
  | .stop => alarm.stop
  | .shutDown => alarm.shutDown

/-! ### What becomes of the tasks -/

variable {alarm : Alarm} {task other : Nat} {phase : Phase}

@[simp]
theorem tasks_enter_self (task : Nat) (phase : Phase) (alarm : Alarm) :
    (alarm.enter task phase).tasks task = { alarm.tasks task with phase } :=
  Function.update_self ..

@[simp]
theorem tasks_enter_of_ne (apart : other ≠ task) (phase : Phase) (alarm : Alarm) :
    (alarm.enter task phase).tasks other = alarm.tasks other :=
  Function.update_of_ne apart ..

@[simp]
theorem spawned_enter (task : Nat) (phase : Phase) (alarm : Alarm) :
    (alarm.enter task phase).spawned = alarm.spawned :=
  rfl

@[simp]
theorem handle_enter (task : Nat) (phase : Phase) (alarm : Alarm) :
    (alarm.enter task phase).handle = alarm.handle :=
  rfl

@[simp]
theorem isShutDown_enter (task : Nat) (phase : Phase) (alarm : Alarm) :
    (alarm.enter task phase).isShutDown = alarm.isShutDown :=
  rfl

@[simp]
theorem phase_aborting (alarm : Alarm) (task : Nat) :
    (alarm.aborting task).phase = (alarm.tasks task).phase :=
  rfl

@[simp]
theorem isAborted_aborting (alarm : Alarm) (task : Nat) :
    (alarm.aborting task).isAborted =
      ((alarm.tasks task).isAborted || alarm.handle == some task) :=
  rfl

@[simp]
theorem arm_of_isShutDown (isShutDown : alarm.isShutDown = true) (delay : Nat) :
    alarm.arm delay = alarm :=
  if_pos isShutDown

theorem arm_of_isOpen (isOpen : alarm.isShutDown = false) (delay : Nat) :
    alarm.arm delay =
      { alarm with
        tasks := Function.update alarm.aborting alarm.spawned { phase := .spawned delay }
        spawned := alarm.spawned + 1
        handle := some alarm.spawned } := by
  simp [arm, isOpen]

@[simp]
theorem isShutDown_arm (alarm : Alarm) (delay : Nat) :
    (alarm.arm delay).isShutDown = alarm.isShutDown := by
  unfold arm
  split <;> rfl

@[simp]
theorem ensureArmed_of_isArmed (isArmed : alarm.isArmed = true) (delay : Nat) :
    alarm.ensureArmed delay = alarm :=
  if_pos isArmed

@[simp]
theorem ensureArmed_of_isShutDown (isShutDown : alarm.isShutDown = true) (delay : Nat) :
    alarm.ensureArmed delay = alarm := by
  simp [ensureArmed, isShutDown]

@[simp]
theorem ensureArmed_of_not_isArmed (unarmed : alarm.isArmed = false) (delay : Nat) :
    alarm.ensureArmed delay = alarm.arm delay := by
  simp [ensureArmed, unarmed]

end Alarm

/-! ## Runs -/

/-- A timer in use: its tasks, the timer that stands for them, and what happened to it. -/
structure Clockwork where
  alarm : Alarm := {}
  timer : Timer := {}
  now : Nat := 0
  /-- the task that is calling back -/
  calling : Option Nat := none
  chronicle : Chronicle := []

namespace Clockwork

/-- Whether no task is ready to run. -/
def AtRest (clockwork : Clockwork) : Prop :=
  clockwork.calling = none ∧
    ∀ task, ¬(clockwork.alarm.tasks task).IsReady clockwork.alarm.isShutDown clockwork.now

/-- The clockwork after a command. -/
def obey (command : Command) (clockwork : Clockwork) : Clockwork :=
  { clockwork with
    alarm := clockwork.alarm.obey command
    timer := clockwork.timer.obey clockwork.now command
    chronicle := clockwork.chronicle.record clockwork.now command }

section

variable (clockwork : Clockwork) (command : Command)

@[simp]
theorem alarm_obey : (clockwork.obey command).alarm = clockwork.alarm.obey command :=
  rfl

@[simp]
theorem timer_obey :
    (clockwork.obey command).timer = clockwork.timer.obey clockwork.now command :=
  rfl

@[simp]
theorem now_obey : (clockwork.obey command).now = clockwork.now :=
  rfl

@[simp]
theorem calling_obey : (clockwork.obey command).calling = clockwork.calling :=
  rfl

@[simp]
theorem chronicle_obey :
    (clockwork.obey command).chronicle = clockwork.chronicle.record clockwork.now command :=
  rfl

end

/-- The clockwork with one of its tasks in another phase. -/
def enter (task : Nat) (phase : Phase) (clockwork : Clockwork) : Clockwork :=
  { clockwork with alarm := clockwork.alarm.enter task phase }

/-- The clockwork when one of its tasks calls back. -/
def fire (task : Nat) (clockwork : Clockwork) : Clockwork :=
  { clockwork with
    timer := clockwork.timer.fired
    calling := some task
    chronicle := clockwork.chronicle ++ [(clockwork.now, .fired)] }

/-- The clockwork once what a task called back has returned. -/
def return_ (task : Nat) (clockwork : Clockwork) : Clockwork :=
  { clockwork.enter task .ended with calling := none }

/-- The clockwork at a later moment. -/
def wait (later : Nat) (clockwork : Clockwork) : Clockwork :=
  { clockwork with now := later }

/-- What may happen next.  Nobody does anything to the timer while a firing is due, and time passes
only while no task is ready to run, and not beyond a moment for which a task is asleep. -/
inductive Step (clockwork : Clockwork) : Clockwork → Prop where
  /-- another task does something to the timer -/
  | asks (command : Command) : clockwork.calling = none →
      clockwork.timer.isDue clockwork.now = false → Step clockwork (clockwork.obey command)
  /-- the timer is armed by what it calls back -/
  | rearms (task delay : Nat) : clockwork.calling = some task →
      clockwork.timer.isDue clockwork.now = false → Step clockwork (clockwork.obey (.arm delay))
  /-- a task is polled first; it sleeps for thirty years at most -/
  | sleeps (task delay : Nat) : clockwork.calling ≠ some task →
      (clockwork.alarm.tasks task).phase = .spawned delay →
      (clockwork.alarm.tasks task).isAborted = false → clockwork.alarm.isShutDown = false →
      Step clockwork (clockwork.enter task (.asleep (clockwork.now + Timer.bounded delay)))
  /-- a task wakes and calls back -/
  | fires (task wakesAt : Nat) : clockwork.calling = none →
      (clockwork.alarm.tasks task).phase = .asleep wakesAt → wakesAt ≤ clockwork.now →
      (clockwork.alarm.tasks task).isAborted = false → Step clockwork (clockwork.fire task)
  /-- what was called back returns, and its task ends -/
  | returns (task : Nat) : clockwork.calling = some task →
      Step clockwork (clockwork.return_ task)
  /-- a task that was aborted or told to end is polled -/
  | ends (task : Nat) : clockwork.calling ≠ some task →
      (clockwork.alarm.tasks task).isAborted ∨ clockwork.alarm.isShutDown →
      Step clockwork (clockwork.enter task .ended)
  | passes (later : Nat) : clockwork.AtRest → clockwork.now ≤ later →
      (∀ task wakesAt, (clockwork.alarm.tasks task).phase = .asleep wakesAt → later ≤ wakesAt) →
      Step clockwork (clockwork.wait later)

/-- What a new timer may come to. -/
inductive Reached : Clockwork → Prop where
  | start (now : Nat) : Reached { now := now }
  | step {clockwork next : Clockwork} : Reached clockwork → clockwork.Step next → Reached next

end Clockwork

end FieldSurvey.Surveyor
