import FieldSurvey.Surveyor.Schedule
import FieldSurvey.Surveyor.Work

/-!
# Turns

Whoever has to do with a surveyor takes turns: callers submit, cancel and configure, ask
for a scan or shut the surveyor down; the timer fires; the worker takes a request or is
woken.  What the surroundings are, what time it is and what the worker is woken by are
left open, so that a sequence of turns is any order of steps in any environment.
-/

namespace FieldSurvey.Surveyor

open Model (Mode Request ScanConfig ServerRequest)
open Survey (Wake)

/-- A step that somebody takes. -/
inductive Turn where
  | discover (request : Request) (surroundings : Surroundings)
  | register (request : ServerRequest) (surroundings : Surroundings)
  | cancel (id : String)
  | configure (mode : Mode) (config : ScanConfig) (surroundings : Surroundings) (now : Nat)
  | scan (now : Nat)
  | shutDown
  | fire (now : Nat)
  | take (now : Moment)
  | resume (now : Moment) (wake : Wake)

/-- What a turn does to a surveyor, and the signals that it gives. -/
def Turn.act : Turn → Surveyor → Surveyor × List Signal
  | discover request surroundings, surveyor => (surveyor.discover request surroundings).2
  | register request surroundings, surveyor =>
    (surveyor.discover request.toRequest surroundings).2
  | cancel id, surveyor => ((surveyor.cancel id).2, [])
  | configure mode config surroundings now, surveyor =>
    (surveyor.configure mode config surroundings now, [])
  | scan now, surveyor => (surveyor.scan now, [])
  | shutDown, surveyor => (surveyor.stop, [])
  | fire now, surveyor => surveyor.fire now
  | take now, surveyor => surveyor.take now
  | resume now wake, surveyor => surveyor.resume now wake

/-- A sequence of turns, with all signals in the order in which they are given. -/
def play : List Turn → Surveyor → Surveyor × List Signal
  | [], surveyor => (surveyor, [])
  | turn :: rest, surveyor =>
    let (surveyor, signals) := turn.act surveyor
    let (surveyor, later) := play rest surveyor
    (surveyor, signals ++ later)

theorem play_append (earlier later : List Turn) (surveyor : Surveyor) :
    play (earlier ++ later) surveyor =
      ((play later (play earlier surveyor).1).1,
        (play earlier surveyor).2 ++ (play later (play earlier surveyor).1).2) := by
  induction earlier generalizing surveyor with
  | nil => rfl
  | cons turn rest ih => simp [play, ih]

/-! ## The timer -/

/-- What holds of silent changes and of submissions, and of one step after the other. -/
structure Composable (holds : Surveyor → Surveyor × List Signal → Prop) : Prop where
  trans : ∀ {before : Surveyor} {first second : Surveyor × List Signal}, holds before first →
    holds first.1 second → holds before (second.1, first.2 ++ second.2)
  timer : ∀ (surveyor : Surveyor) (timer : Timer), holds surveyor ({ surveyor with timer }, [])
  cancelWhere : ∀ (surveyor : Surveyor) (test : Job → Bool),
    holds surveyor (surveyor.cancelWhere test, [])
  submit : ∀ (surveyor : Surveyor) (job : Job), holds surveyor (surveyor.submit job).2

namespace Composable

variable {holds : Surveyor → Surveyor × List Signal → Prop}

/-- It holds when the standing request is submitted. -/
theorem schedule (composable : Composable holds) (surveyor : Surveyor) (now : Nat) :
    holds surveyor (surveyor.schedule now) := by
  have cancelled := composable.cancelWhere surveyor Job.isScan
  unfold Surveyor.schedule
  dsimp only
  split
  · exact cancelled
  · have submitted := composable.trans cancelled
      (composable.submit (surveyor.cancelWhere Job.isScan)
        (surveyor.cancelWhere Job.isScan).standing.renew.asScan)
    rw [List.nil_append] at submitted
    split
    · rename_i equal
      rw [equal] at submitted
      exact submitted
    · rename_i after signals equal
      rw [equal] at submitted
      have armed := composable.trans submitted (composable.timer after
        (after.timer.arm now (surveyor.cancelWhere Job.isScan).standing.renew.asScan.idleMillis))
      rwa [List.append_nil] at armed

/-- It holds when the timer fires. -/
theorem fire (composable : Composable holds) (surveyor : Surveyor) (now : Nat) :
    holds surveyor (surveyor.fire now) := by
  have fired := composable.timer surveyor surveyor.timer.fired
  unfold Surveyor.fire
  split
  · dsimp only
    split
    · exact fired
    · have both := composable.trans fired (composable.schedule _ now)
      rwa [List.nil_append] at both
  · exact composable.timer surveyor surveyor.timer

end Composable

/-! ## Reachable surveyors -/

/-- The surveyors that some turns lead to after a start. -/
inductive Reachable : Surveyor → Prop where
  | start (discoverer : Settings.Discoverer) (capacity initialDelay reportInterval : Nat)
      (isContainer : Bool) (now : Nat) :
      Reachable (start discoverer capacity initialDelay reportInterval isContainer now)
  | act (turn : Turn) {surveyor : Surveyor} (reachable : Reachable surveyor) :
      Reachable (turn.act surveyor).1

theorem Reachable.play {surveyor : Surveyor} (reachable : Reachable surveyor)
    (turns : List Turn) : Reachable (play turns surveyor).1 := by
  induction turns generalizing surveyor with
  | nil => exact reachable
  | cons turn rest ih => exact ih (reachable.act turn)

end FieldSurvey.Surveyor
