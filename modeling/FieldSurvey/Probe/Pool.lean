import FieldSurvey.Probe.Limit

/-!
# Probe pools

A pool probes a sequence of targets, of which it takes the next ones as long as
fewer probes than the limit are in flight.  It reports every target that it
finds, and from time to time how far it has come.  Once it is cancelled it takes
no more targets, but waits for the probes in flight.
-/

namespace FieldSurvey.Probe

/-- A sequence of targets: the one at a position, if the sequence is that
long. -/
abbrev Targets (τ : Type) :=
  Nat → Option τ

/-- How far a pool has come. -/
structure Counters where
  /-- probes in flight when the counters were last reported -/
  active : Nat := 0
  /-- probes issued so far -/
  issued : Nat := 0
  /-- probes that the pool will issue in total -/
  total : Nat := 0
  /-- targets found so far -/
  found : Nat := 0
  deriving DecidableEq, Repr

/-- What a pool reports while it runs. -/
inductive Report (τ : Type) where
  | found (target : τ) (counters : Counters)
  | progress (counters : Counters)

/-- What comes of something that can be cancelled. -/
inductive Outcome (α : Type) where
  | completed (value : α)
  | cancelled
  deriving DecidableEq

/-- A pool at work. -/
structure Pool (τ : Type) where
  limit : Limit
  counters : Counters
  /-- the targets in flight and their positions, in the order in which they were
  issued -/
  inFlight : List (Nat × τ) := []
  /-- the targets found, in the order in which they were found -/
  found : List τ := []
  isExhausted : Bool := false
  isCancelled : Bool := false

namespace Pool

variable {τ : Type}

/-- A pool before its first probe; `total` is the length of its sequence. -/
def start (config : PoolConfig) (total : Nat) : Pool τ where
  limit := .start config.maxProbes.toNat config.minProbes.toNat
  counters := { total }

/-- Takes up to `room` targets. -/
def fill (targets : Targets τ) : (room : Nat) → Pool τ → Pool τ
  | 0, pool => pool
  | room + 1, pool =>
    match targets pool.counters.issued with
    | none => { pool with isExhausted := true }
    | some target =>
      fill targets room
        { pool with
          inFlight := pool.inFlight ++ [(pool.counters.issued, target)]
          counters := { pool.counters with issued := pool.counters.issued + 1 } }

/-- The pool before it waits: it takes notice of a cancellation, and otherwise
takes targets up to its limit. -/
def proceed (targets : Targets τ) (isCancelled : Bool) (pool : Pool τ) : Pool τ :=
  let pool := { pool with isCancelled := pool.isCancelled || isCancelled }
  if pool.isCancelled || pool.isExhausted then pool
  else fill targets (pool.limit.current - pool.inFlight.length) pool

/-- Whether the pool is done, which is so if it proceeds and has nothing in
flight. -/
def isDone (pool : Pool τ) : Bool :=
  pool.inFlight.isEmpty

/-- A probe in flight comes to an end. -/
def settle (position : Nat) (verdict : Verdict) (pool : Pool τ) : Pool τ × List (Report τ) :=
  match pool.inFlight.lookup position with
  | none => (pool, [])
  | some target =>
    let inFlight := pool.inFlight.eraseP fun entry => entry.1 == position
    let pool := { pool with inFlight, limit := pool.limit.record verdict }
    if verdict = .opened then
      let counters :=
        { pool.counters with found := pool.counters.found + 1, active := inFlight.length }
      ({ pool with counters, found := pool.found ++ [target] }, [.found target counters])
    else (pool, [])

/-- It is time for a progress report. -/
def tick (pool : Pool τ) : Pool τ × List (Report τ) :=
  let counters := { pool.counters with active := pool.inFlight.length }
  ({ pool with counters }, [.progress counters])

/-- The last report. -/
def lastReport (pool : Pool τ) : Report τ :=
  .progress { pool.counters with active := 0 }

/-- What came of the pool. -/
def outcome (pool : Pool τ) : Outcome (List τ) :=
  if pool.isCancelled then .cancelled else .completed pool.found

/-- What a waiting pool may be woken by. -/
inductive Happening where
  | settled (position : Nat) (verdict : Verdict)
  | ticked
  /-- the cancellation is noticed -/
  | noticed

/-- The pool after a happening, and before it waits again. -/
def next (targets : Targets τ) (isCancelled : Bool) (happening : Happening) (pool : Pool τ) :
    Pool τ × List (Report τ) :=
  let (pool, reports) := match happening with
    | .settled position verdict => pool.settle position verdict
    | .ticked => pool.tick
    | .noticed => (pool, [])
  (pool.proceed targets isCancelled, reports)

end Pool

end FieldSurvey.Probe
