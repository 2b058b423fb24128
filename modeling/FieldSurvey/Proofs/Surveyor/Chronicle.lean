import FieldSurvey.Surveyor.Chronicle
import Mathlib.Data.List.Basic

/-!
# Timers and their chronicles

A timer that obeys its commands is due exactly when its chronicle demands a firing that it has not
made.
-/

namespace FieldSurvey.Surveyor

namespace Chronicle

/-! ## One more entry -/

variable {put : Nat → Nat}

theorem dues_concat_fired (chronicle : Chronicle) (now : Nat) :
    dues put (chronicle ++ [(now, .fired)]) = dues put chronicle := by
  induction chronicle with
  | nil => rfl
  | cons entry later ih =>
      obtain ⟨time, happening⟩ := entry
      cases happening with
      | armed delay =>
          rw [List.cons_append, dues, dues, ih, revokes_concat]
          simp
      | stopped => exact ih
      | shutDown => exact ih
      | fired => exact ih

/-- What is due once the timer is armed, stopped or shut down is what was due by then, and what an
arming makes due. -/
theorem dues_concat {happening : Happening} (other : happening ≠ .fired) (chronicle : Chronicle)
    (now : Nat) : dues put (chronicle ++ [(now, happening)]) =
      (dues put chronicle).filter (· ≤ now) ++ dues put [(now, happening)] := by
  induction chronicle with
  | nil => rfl
  | cons entry later ih =>
      obtain ⟨time, event⟩ := entry
      cases event with
      | armed delay =>
          rw [List.cons_append, dues, dues, ih, revokes_concat]
          by_cases revoked : revokes (time + put delay) later
          · simp [revoked]
          · by_cases early : now < time + put delay
            · simp [revoked, other, early]
            · simp [revoked, other, early, Nat.not_lt.mp early]
      | stopped => exact ih
      | shutDown => exact ih
      | fired => exact ih

end Chronicle

/-! ## What a chronicle tells -/

/-- What a chronicle tells of a timer: it is due when the chronicle demands a firing that it has not
made, of which there is one at most. -/
structure Chronicle.Tells (chronicle : Chronicle) (now : Nat) (timer : Timer) : Prop where
  dues_eq : chronicle.dues Timer.bounded = chronicle.firings ++ timer.dueAt.toList
  past : ∀ time ∈ chronicle.firings, time ≤ now
  ahead : ∀ due, timer.dueAt = some due → now ≤ due
  isShut : chronicle.isShut = timer.isShutDown
  isPending : chronicle.isPending = timer.isArmed
  silent : timer.isShutDown → timer.dueAt = none

namespace Chronicle.Tells

variable {chronicle : Chronicle} {now : Nat} {timer : Timer}

theorem nil (now : Nat) : Tells [] now {} where
  dues_eq := rfl
  past time member := by contradiction
  ahead due isDue := by contradiction
  isShut := rfl
  isPending := rfl
  silent isShutDown := by contradiction

/-- Where no firing is due at the moment, all that were due by now are made. -/
theorem dues_filter (tells : chronicle.Tells now timer) (quiet : timer.isDue now = false) :
    (chronicle.dues Timer.bounded).filter (· ≤ now) = chronicle.firings := by
  have made : chronicle.firings.filter (· ≤ now) = chronicle.firings :=
    List.filter_eq_self.mpr fun time member => decide_eq_true (tells.past time member)
  rw [tells.dues_eq, List.filter_append, made]
  cases dueAt : timer.dueAt with
  | none => simp
  | some due => simp [Timer.lt_of_dueAt quiet dueAt]

theorem dues_concat (tells : chronicle.Tells now timer) (quiet : timer.isDue now = false)
    {happening : Happening} (other : happening ≠ .fired) :
    (chronicle ++ [(now, happening)]).dues Timer.bounded =
      (chronicle ++ [(now, happening)]).firings ++ dues Timer.bounded [(now, happening)] := by
  rw [Chronicle.dues_concat other, tells.dues_filter quiet, firings_concat other]

theorem past_concat (tells : chronicle.Tells now timer) {happening : Happening}
    (other : happening ≠ .fired) :
    ∀ time ∈ (chronicle ++ [(now, happening)]).firings, time ≤ now := by
  rw [firings_concat other]
  exact tells.past

theorem armed (tells : chronicle.Tells now timer) (quiet : timer.isDue now = false)
    (isOpen : timer.isShutDown = false) (delay : Nat) :
    Tells (chronicle ++ [(now, .armed delay)]) now (timer.arm now delay) where
  dues_eq := by
    rw [Timer.dueAt_arm isOpen]
    exact tells.dues_concat quiet (by simp)
  past := tells.past_concat (by simp)
  ahead due isDue := by
    rw [Timer.dueAt_arm isOpen] at isDue
    exact Option.some.inj isDue ▸ Nat.le_add_right _ _
  isShut := by simp [tells.isShut]
  isPending := by simp [isOpen]
  silent isShutDown := by simp [isOpen] at isShutDown

theorem stopped (tells : chronicle.Tells now timer) (quiet : timer.isDue now = false) :
    Tells (chronicle ++ [(now, .stopped)]) now timer.stop where
  dues_eq := tells.dues_concat quiet (by simp)
  past := tells.past_concat (by simp)
  ahead due isDue := by contradiction
  isShut := by simp [tells.isShut]
  isPending := by simp
  silent _ := rfl

theorem shutDown (tells : chronicle.Tells now timer) (quiet : timer.isDue now = false) :
    Tells (chronicle ++ [(now, .shutDown)]) now timer.shutDown where
  dues_eq := tells.dues_concat quiet (by simp)
  past := tells.past_concat (by simp)
  ahead due isDue := by contradiction
  isShut := by simp
  isPending := by simp
  silent _ := rfl

theorem arm (tells : chronicle.Tells now timer) (quiet : timer.isDue now = false) (delay : Nat) :
    Tells (chronicle.record now (.arm delay)) now (timer.arm now delay) := by
  cases shut : timer.isShutDown with
  | true => simpa [tells.isShut, shut] using tells
  | false => simpa [tells.isShut, shut] using tells.armed quiet shut delay

/-- A timer that obeys a command remains the one that its chronicle tells of. -/
theorem obey (tells : chronicle.Tells now timer) (quiet : timer.isDue now = false)
    (command : Command) : (chronicle.record now command).Tells now (timer.obey now command) := by
  cases command with
  | arm delay => exact tells.arm quiet delay
  | ensureArmed delay =>
      cases armed : timer.isArmed with
      | true => simpa [tells.isPending, armed] using tells
      | false => simpa [tells.isPending, armed] using tells.arm quiet delay
  | stop => exact tells.stopped quiet
  | shutDown => exact tells.shutDown quiet

theorem fired (tells : chronicle.Tells now timer) (isDue : timer.dueAt = some now) :
    Tells (chronicle ++ [(now, .fired)]) now timer.fired where
  dues_eq := by
    rw [dues_concat_fired, tells.dues_eq, isDue]
    simp
  past time member := by
    rw [firings_concat_fired, List.mem_append, List.mem_singleton] at member
    rcases member with before | rfl
    · exact tells.past time before
    · exact Nat.le_refl _
  ahead due isDue := by contradiction
  isShut := by simp [tells.isShut]
  isPending := by simp
  silent _ := rfl

theorem passes (tells : chronicle.Tells now timer) {later : Nat} (since : now ≤ later)
    (ahead : ∀ due, timer.dueAt = some due → later ≤ due) : chronicle.Tells later timer :=
  { tells with
    past := fun time member => Nat.le_trans (tells.past time member) since
    ahead := ahead }

end Chronicle.Tells

end FieldSurvey.Surveyor
