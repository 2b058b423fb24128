import FieldSurvey.Probe.Scan

/-!
# Scripted probes

A script says for every target how it answers and after how long.  With it a pool
runs on a clock that somebody else sets: at any time the script tells what
happens to the pool next, or that it sleeps until one of its probes comes to an
end, a report is due, or it is cancelled.  Probes are polled in the order in which
they were issued or woken, and as soon as one of them has come to an end the pool
is told.
-/

namespace FieldSurvey.Rehearsal

open Probe (Verdict Pool Report Scan)

/-- How a target answers, and after how many milliseconds. -/
structure ProbeScript where
  verdict : Verdict := .closed
  delay : Nat := 0
  deriving DecidableEq, Repr

/-- The verdict on a probe that is given up after `timeout`. -/
def ProbeScript.verdictWithin (script : ProbeScript) (timeout : Nat) : Verdict :=
  if script.delay ≤ timeout then script.verdict else .timedOut

/-- How long a probe takes that is given up after `timeout`. -/
def ProbeScript.durationWithin (script : ProbeScript) (timeout : Nat) : Nat :=
  min script.delay timeout

/-- The script of the target at a position. -/
def scriptAt {τ : Type} (scan : Scan τ) (script : τ → ProbeScript) (position : Nat) :
    ProbeScript :=
  (scan.targets position).elim {} script

/-- A probe that waits to be polled. -/
structure Waiting where
  position : Nat
  /-- whether it was polled before and has come to an end -/
  isOver : Bool

/-- The probes of a pool on a clock. -/
structure Probing where
  /-- how many probes are known to be issued -/
  known : Nat := 0
  waiting : List Waiting := []
  /-- positions of the probes that sleep, and when they wake up -/
  asleep : List (Nat × Nat) := []
  /-- when the next progress report is due -/
  reportAt : Nat

/-- What a look at the probes of a pool shows. -/
structure Look where
  probing : Probing
  /-- positions of the targets that were probed -/
  probed : List Nat
  isCancelled : Bool
  /-- what happens to the pool; nothing if it sleeps -/
  happening : Option Pool.Happening

namespace Probing

variable {τ : Type}

/-- The probes of a pool that begins at `now`. -/
def start (scan : Scan τ) (now : Nat) : Probing where
  reportAt := now + scan.config.period

/-- Takes notice of the probes that a pool has issued. -/
def learn (issued : Nat) (probing : Probing) : Probing :=
  let fresh := (List.range (issued - probing.known)).map (probing.known + ·)
  { probing with
    known := max issued probing.known
    waiting := probing.waiting ++ fresh.map fun position => { position, isOver := false } }

/-- Polls waiting probes until one of them has come to an end, whose position is
the last value.  The probe at the position `trigger` cancels the scan. -/
def pollWaiting (duration : Nat → Nat) (trigger : Option Nat) (now : Nat) (probing : Probing)
    (isCancelled : Bool) : List Waiting → Probing × List Nat × Bool × Option Nat
  | [] => ({ probing with waiting := [] }, [], isCancelled, none)
  | first :: rest =>
    if first.isOver then
      ({ probing with waiting := rest }, [], isCancelled, some first.position)
    else
      let isCancelled := isCancelled || trigger == some first.position
      let time := duration first.position
      if time = 0 then
        ({ probing with waiting := rest }, [first.position], isCancelled, some first.position)
      else
        let probing := { probing with asleep := probing.asleep ++ [(first.position, now + time)] }
        let (probing, probed, isCancelled, settled) :=
          pollWaiting duration trigger now probing isCancelled rest
        (probing, first.position :: probed, isCancelled, settled)

/-- Looks at the probes of a pool: a probe that has come to an end goes before a
report that is due, and this before a cancellation. -/
def look (scan : Scan τ) (script : τ → ProbeScript) (trigger : Option Nat) (now : Nat)
    (isCancelled : Bool) (pool : Pool τ) (probing : Probing) : Look :=
  let timeout := scan.config.timeout
  let probing := probing.learn pool.counters.issued
  let (probing, probed, isCancelled, settled) :=
    pollWaiting (fun position => (scriptAt scan script position).durationWithin timeout)
      trigger now probing isCancelled probing.waiting
  match settled with
  | some position =>
    let verdict := (scriptAt scan script position).verdictWithin timeout
    { probing, probed, isCancelled, happening := some (.settled position verdict) }
  | none =>
    if probing.reportAt ≤ now then
      { probing := { probing with reportAt := now + scan.config.period }
        probed
        isCancelled
        happening := some .ticked }
    else if isCancelled && !pool.isCancelled then
      { probing, probed, isCancelled, happening := some .noticed }
    else { probing, probed, isCancelled, happening := none }

/-- When the pool wakes up by itself. -/
def wakesAt (probing : Probing) : Nat :=
  probing.asleep.foldl (fun time entry => min time entry.2) probing.reportAt

/-- The probes with every one woken whose time has come. -/
def wake (now : Nat) (probing : Probing) : Probing :=
  let (due, asleep) := probing.asleep.partition fun entry => entry.2 ≤ now
  { probing with
    asleep
    waiting := probing.waiting ++ due.map fun entry => { position := entry.1, isOver := true } }

end Probing

/-- What can be seen of a scan. -/
inductive ScanNote (τ : Type) where
  /-- a target was taken -/
  | issued (position : Nat)
  /-- a target was probed -/
  | probed (target : τ)
  | reported (report : Report τ)

/-- A scan from its beginning to its end. -/
structure Rehearsed (τ : Type) where
  notes : List (Nat × ScanNote τ)
  outcome : Probe.Outcome (List τ)
  finishedAt : Nat

/-- More steps than any scan of the address space takes. -/
def enoughSteps : Nat :=
  0x1000000000000000

/-- A scan that runs alone, on a clock of its own. -/
structure LoneScan (τ : Type) where
  scan : Scan τ
  script : τ → ProbeScript
  /-- the position whose probe cancels the scan -/
  trigger : Option Nat
  /-- when somebody else cancels the scan -/
  cancelAt : Option Nat

namespace LoneScan

variable {τ : Type}

/-- The notes on the targets that a pool has taken since it had taken `before` of
them, the last note first. -/
def issued (before : Nat) (pool : Pool τ) : List (ScanNote τ) :=
  ((List.range (pool.counters.issued - before)).map fun n => ScanNote.issued (before + n)).reverse

/-- The notes on targets that are probed, the last note first. -/
def probed (lone : LoneScan τ) (positions : List Nat) : List (ScanNote τ) :=
  (positions.filterMap fun position => (lone.scan.targets position).map ScanNote.probed).reverse

/-- The time to which the clock jumps. -/
def nextTime (lone : LoneScan τ) (now : Nat) (probing : Probing) : Nat :=
  match lone.cancelAt with
  | some time => if now < time then min time probing.wakesAt else probing.wakesAt
  | none => probing.wakesAt

/-- Runs a scan on; the notes so far stand in reverse. -/
def runFrom (lone : LoneScan τ) (fuel now : Nat) (isCancelled : Bool) (pool : Pool τ)
    (probing : Probing) (seen : List (Nat × ScanNote τ)) : Rehearsed τ :=
  match fuel with
  | 0 => ⟨seen.reverse, pool.outcome, now⟩
  | fuel + 1 =>
    if pool.isDone then
      ⟨((now, .reported pool.lastReport) :: seen).reverse, pool.outcome, now⟩
    else
      let isCancelled := isCancelled || lone.cancelAt.any (· ≤ now)
      let look := probing.look lone.scan lone.script lone.trigger now isCancelled pool
      let seen := (lone.probed look.probed).map (fun note => (now, note)) ++ seen
      match look.happening with
      | some happening =>
        let before := pool.counters.issued
        let (pool, reports) := pool.next lone.scan.targets look.isCancelled happening
        let notes := issued before pool ++ (reports.map ScanNote.reported).reverse
        runFrom lone fuel now look.isCancelled pool look.probing
          (notes.map (fun note => (now, note)) ++ seen)
      | none =>
        let later := lone.nextTime now look.probing
        runFrom lone fuel later look.isCancelled pool (look.probing.wake later) seen

/-- Runs a scan that begins at zero. -/
def run (lone : LoneScan τ) : Rehearsed τ :=
  let isCancelled := lone.cancelAt.any (· ≤ 0)
  let pool : Pool τ :=
    (Pool.start lone.scan.config lone.scan.total).proceed lone.scan.targets isCancelled
  lone.runFrom enoughSteps 0 isCancelled pool (.start lone.scan 0)
    ((issued 0 pool).map fun note => (0, note))

end LoneScan

end FieldSurvey.Rehearsal
