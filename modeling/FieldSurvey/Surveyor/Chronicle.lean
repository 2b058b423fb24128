import FieldSurvey.Surveyor.Timer

/-!
# Chronicles of a timer

A chronicle lists what happened to a timer, and when.  It demands a firing for
every arming that nothing revokes before it is due, at that moment.
-/

namespace FieldSurvey.Surveyor

/-- What happens to a timer. -/
inductive Happening where
  | armed (delay : Nat)
  | stopped
  | shutDown
  | fired
  deriving DecidableEq

/-- What happened to a timer, and when, the oldest first. -/
abbrev Chronicle : Type :=
  List (Nat × Happening)

namespace Chronicle

/-- When the timer has fired. -/
def firings (chronicle : Chronicle) : List Nat :=
  (chronicle.filter (·.2 = .fired)).map Prod.fst

/-- Whether the timer was shut down. -/
def isShut (chronicle : Chronicle) : Bool :=
  chronicle.any (·.2 = .shutDown)

/-- Whether a firing is still to come: the last that happened is an arming. -/
def isPending (chronicle : Chronicle) : Bool :=
  match chronicle.getLast? with
  | some (_, .armed _) => true
  | _ => false

/-- Whether an arming that was due is revoked: the timer is armed anew, stopped or shut down before
that. -/
def revokes (due : Nat) (later : Chronicle) : Bool :=
  later.any fun entry => entry.2 ≠ .fired && entry.1 < due

/-- When the timer has to fire, where `put` says how long a firing is put off for a delay: after the
delay of each arming, unless the arming is revoked. -/
def dues (put : Nat → Nat) : Chronicle → List Nat
  | [] => []
  | (time, .armed delay) :: later =>
    if revokes (time + put delay) later then dues put later
    else (time + put delay) :: dues put later
  | _ :: later => dues put later

/-! ### One more entry -/

@[simp]
theorem firings_concat_fired (chronicle : Chronicle) (now : Nat) :
    firings (chronicle ++ [(now, .fired)]) = firings chronicle ++ [now] := by
  simp [firings]

@[simp]
theorem firings_concat {happening : Happening} (other : happening ≠ .fired)
    (chronicle : Chronicle) (now : Nat) :
    firings (chronicle ++ [(now, happening)]) = firings chronicle := by
  simp [firings, other]

@[simp]
theorem isShut_concat (chronicle : Chronicle) (now : Nat) (happening : Happening) :
    isShut (chronicle ++ [(now, happening)]) =
      (isShut chronicle || decide (happening = .shutDown)) := by
  simp [isShut, List.any_append]

@[simp]
theorem isPending_concat_armed (chronicle : Chronicle) (now delay : Nat) :
    isPending (chronicle ++ [(now, .armed delay)]) = true := by
  simp [isPending]

@[simp]
theorem isPending_concat {happening : Happening} (other : ∀ delay, happening ≠ .armed delay)
    (chronicle : Chronicle) (now : Nat) :
    isPending (chronicle ++ [(now, happening)]) = false := by
  simp [isPending, other]

@[simp]
theorem revokes_concat (due : Nat) (later : Chronicle) (now : Nat) (happening : Happening) :
    revokes due (later ++ [(now, happening)]) =
      (revokes due later || (decide (happening ≠ .fired) && decide (now < due))) := by
  simp [revokes, List.any_append]

end Chronicle

/-! ## Commands -/

/-- What is done to a timer. -/
inductive Command where
  | arm (delay : Nat)
  | ensureArmed (delay : Nat)
  | stop
  | shutDown

/-- What a command is in a chronicle.  No arming comes after the shutdown, and none is needed while
a firing is still to come. -/
def Command.happening? (chronicle : Chronicle) : Command → Option Happening
  | arm delay => if chronicle.isShut then none else some (.armed delay)
  | ensureArmed delay =>
    if chronicle.isShut || chronicle.isPending then none else some (.armed delay)
  | stop => some .stopped
  | shutDown => some .shutDown

/-- The chronicle with a command. -/
def Chronicle.record (now : Nat) (chronicle : Chronicle) (command : Command) : Chronicle :=
  chronicle ++ (command.happening? chronicle).toList.map fun happening => (now, happening)

section

variable {chronicle : Chronicle}

@[simp]
theorem Chronicle.record_arm_of_isShut (isShut : chronicle.isShut = true) (now delay : Nat) :
    chronicle.record now (.arm delay) = chronicle := by
  simp [record, Command.happening?, isShut]

@[simp]
theorem Chronicle.record_arm (isOpen : chronicle.isShut = false) (now delay : Nat) :
    chronicle.record now (.arm delay) = chronicle ++ [(now, .armed delay)] := by
  simp [record, Command.happening?, isOpen]

@[simp]
theorem Chronicle.record_ensureArmed_of_isPending (isPending : chronicle.isPending = true)
    (now delay : Nat) : chronicle.record now (.ensureArmed delay) = chronicle := by
  simp [record, Command.happening?, isPending]

@[simp]
theorem Chronicle.record_ensureArmed (unarmed : chronicle.isPending = false) (now delay : Nat) :
    chronicle.record now (.ensureArmed delay) = chronicle.record now (.arm delay) := by
  simp [record, Command.happening?, unarmed]

@[simp]
theorem Chronicle.record_stop (chronicle : Chronicle) (now : Nat) :
    chronicle.record now .stop = chronicle ++ [(now, .stopped)] :=
  rfl

@[simp]
theorem Chronicle.record_shutDown (chronicle : Chronicle) (now : Nat) :
    chronicle.record now .shutDown = chronicle ++ [(now, .shutDown)] :=
  rfl

end

/-- The timer after a command. -/
@[simp]
def Timer.obey (now : Nat) (timer : Timer) : Command → Timer
  | .arm delay => timer.arm now delay
  | .ensureArmed delay => timer.ensureArmed now delay
  | .stop => timer.stop
  | .shutDown => timer.shutDown

end FieldSurvey.Surveyor
