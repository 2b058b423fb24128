/-!
# The rescan timer

The timer fires once after a delay, which is thirty years at most.  Arming it
replaces a firing that is still to come; it never repeats itself.  Once it is shut
down it cannot be armed again.  Times are in milliseconds.
-/

namespace FieldSurvey.Surveyor

/-- A timer. -/
structure Timer where
  /-- when the timer is to fire, if it is armed -/
  dueAt : Option Nat := none
  /-- how often the timer was armed, which tells one arming from another -/
  armings : Nat := 0
  isShutDown : Bool := false
  deriving DecidableEq, Repr

namespace Timer

/-- Whether a firing is still to come. -/
def isArmed (timer : Timer) : Bool :=
  timer.dueAt.isSome

/-- Whether it is time to fire. -/
def isDue (now : Nat) (timer : Timer) : Bool :=
  timer.dueAt.any (· ≤ now)

/-- Thirty years, beyond which nothing is put off. -/
def longestDelay : Nat :=
  30 * 365 * 86400 * 1000

/-- How long something is put off for a delay. -/
def bounded (delay : Nat) : Nat :=
  min delay longestDelay

/-- The timer that fires after a delay and not before, or after thirty years if the
delay is longer. -/
def arm (now delay : Nat) (timer : Timer) : Timer :=
  if timer.isShutDown then timer
  else
    { timer with dueAt := some (now + bounded delay), armings := timer.armings + 1 }

/-- Arms the timer unless it is armed. -/
def ensureArmed (now delay : Nat) (timer : Timer) : Timer :=
  if timer.isArmed then timer else timer.arm now delay

/-- The timer when it fires. -/
def fired (timer : Timer) : Timer :=
  { timer with dueAt := none }

/-- The timer without the firing that was to come. -/
def stop (timer : Timer) : Timer :=
  { timer with dueAt := none }

/-- The timer that never fires again. -/
def shutDown (timer : Timer) : Timer :=
  { timer with dueAt := none, isShutDown := true }

/-! ## What becomes of a timer -/

variable {timer : Timer} {now due : Nat}

theorem arm_of_isOpen (isOpen : timer.isShutDown = false) (now delay : Nat) :
    timer.arm now delay =
      { timer with dueAt := some (now + bounded delay), armings := timer.armings + 1 } := by
  simp [arm, isOpen]

@[simp]
theorem arm_of_isShutDown (isShutDown : timer.isShutDown = true) (now delay : Nat) :
    timer.arm now delay = timer :=
  if_pos isShutDown

@[simp]
theorem dueAt_arm (isOpen : timer.isShutDown = false) (now delay : Nat) :
    (timer.arm now delay).dueAt = some (now + bounded delay) := by
  rw [arm_of_isOpen isOpen]

@[simp]
theorem isShutDown_arm (timer : Timer) (now delay : Nat) :
    (timer.arm now delay).isShutDown = timer.isShutDown := by
  unfold arm
  split <;> rfl

@[simp]
theorem isArmed_arm (isOpen : timer.isShutDown = false) (now delay : Nat) :
    (timer.arm now delay).isArmed := by
  rw [isArmed, dueAt_arm isOpen, Option.isSome_some]

theorem isDue_arm (isOpen : timer.isShutDown = false) (now delay : Nat) :
    (timer.arm now delay).isDue now ↔ delay = 0 := by
  simp only [isDue, dueAt_arm isOpen, bounded, longestDelay, Option.any_some, decide_eq_true_eq]
  omega

@[simp]
theorem ensureArmed_of_isArmed (isArmed : timer.isArmed = true) (now delay : Nat) :
    timer.ensureArmed now delay = timer :=
  if_pos isArmed

@[simp]
theorem ensureArmed_of_isShutDown (isShutDown : timer.isShutDown = true) (now delay : Nat) :
    timer.ensureArmed now delay = timer := by
  simp [ensureArmed, isShutDown]

@[simp]
theorem ensureArmed_of_not_isArmed (unarmed : timer.isArmed = false) (now delay : Nat) :
    timer.ensureArmed now delay = timer.arm now delay := by
  simp [ensureArmed, unarmed]

@[simp]
theorem isShutDown_ensureArmed (timer : Timer) (now delay : Nat) :
    (timer.ensureArmed now delay).isShutDown = timer.isShutDown := by
  cases armed : timer.isArmed <;> simp [armed]

@[simp]
theorem isArmed_ensureArmed (isOpen : timer.isShutDown = false) (now delay : Nat) :
    (timer.ensureArmed now delay).isArmed := by
  cases armed : timer.isArmed <;> simp [armed, isOpen]

@[simp]
theorem dueAt_fired (timer : Timer) : timer.fired.dueAt = none :=
  rfl

@[simp]
theorem isShutDown_fired (timer : Timer) : timer.fired.isShutDown = timer.isShutDown :=
  rfl

@[simp]
theorem isArmed_fired (timer : Timer) : timer.fired.isArmed = false :=
  rfl

@[simp]
theorem isShutDown_stop (timer : Timer) : timer.stop.isShutDown = timer.isShutDown :=
  rfl

@[simp]
theorem isArmed_stop (timer : Timer) : timer.stop.isArmed = false :=
  rfl

@[simp]
theorem isShutDown_shutDown (timer : Timer) : timer.shutDown.isShutDown = true :=
  rfl

@[simp]
theorem isArmed_shutDown (timer : Timer) : timer.shutDown.isArmed = false :=
  rfl

theorem isArmed_of_isDue (isDue : timer.isDue now) : timer.isArmed := by
  obtain ⟨moment, dueAt, -⟩ := (Option.any_eq_true _ _).mp isDue
  rw [isArmed, dueAt, Option.isSome_some]

/-- A firing that is still to come and not due comes later. -/
theorem lt_of_dueAt (quiet : timer.isDue now = false) (isDue : timer.dueAt = some due) :
    now < due := by
  rw [Timer.isDue, isDue, Option.any_some, decide_eq_false_iff_not] at quiet
  exact Nat.lt_of_not_le quiet

end Timer

end FieldSurvey.Surveyor
