import FieldSurvey.Number.Binary

/-!
# Limits of a probe pool

A pool has a maximum of probes in flight and a floor.  The limit starts at the
maximum and follows the share of the latest probes that got an answer; it never
falls below the floor.
-/

namespace FieldSurvey.Probe

/-- What came of a probe. -/
inductive Verdict where
  /-- the host responded, or the port accepted the connection -/
  | opened
  /-- the target answered negatively, or cannot be reached -/
  | closed
  /-- there was no answer in time -/
  | timedOut
  deriving DecidableEq, Repr

/-- The settings of a pool; times are in milliseconds. -/
structure PoolConfig where
  maxProbes : UInt64
  minProbes : UInt64
  timeout : Nat
  progressInterval : Nat
  deriving DecidableEq

namespace PoolConfig

/-- The time between two progress reports if nothing else is said. -/
def defaultInterval : Nat :=
  3000

/-- The shortest time between two progress reports. -/
def shortestInterval : Nat :=
  100

/-- A pool whose limit stays at its maximum. -/
def fixed (maxProbes : UInt64) (timeout : Nat) : PoolConfig :=
  let most := max maxProbes 1
  { maxProbes := most, minProbes := most, timeout, progressInterval := defaultInterval }

/-- A pool whose limit may fall to a share of its maximum, a hundredfold of which is given. -/
def withShare (most hundredfold : UInt64) (timeout : Nat) : PoolConfig :=
  { maxProbes := most
    minProbes := min (max (hundredfold / 100) 1) most
    timeout
    progressInterval := defaultInterval }

/-- A pool whose limit may fall to a share of its maximum, given in percent, as
arithmetic without checks forms it.  If a hundredfold of the share is beyond a
word, the share is one of what the word holds of it. -/
def adaptive (maxProbes : UInt64) (percent : UInt32) (timeout : Nat) : PoolConfig :=
  let most := max maxProbes 1
  withShare most (most * (min percent 100).toUInt64) timeout

/-- The product of two words, if a word holds it. -/
def product? (first second : UInt64) : Option UInt64 :=
  if first.toNat * second.toNat < UInt64.size then some (first * second) else none

/-- A pool whose limit may fall to a share of its maximum, given in percent, as
checked arithmetic forms it.  If a hundredfold of the share is beyond a word, there
is no such pool: the program stops. -/
def adaptive? (maxProbes : UInt64) (percent : UInt32) (timeout : Nat) : Option PoolConfig :=
  let most := max maxProbes 1
  (product? most (min percent 100).toUInt64).map fun hundredfold =>
    withShare most hundredfold timeout

/-- The pool with another time between two progress reports. -/
def withInterval (config : PoolConfig) (interval : Nat) : PoolConfig :=
  { config with progressInterval := interval }

/-- The time between two progress reports, which is never too short. -/
def period (config : PoolConfig) : Nat :=
  max config.progressInterval shortestInterval

end PoolConfig

/-- The number of latest probes that the limit follows. -/
def windowSize : Nat :=
  100

/-- A limit that follows the share of answers. -/
structure Limit where
  most : Nat
  floor : Nat
  /-- whether the latest probes were answered, the oldest one first -/
  window : List Bool
  /-- how many of them were -/
  answered : Nat
  current : Nat
  deriving DecidableEq, Repr

namespace Limit

/-- The limit of a new pool. -/
def start (most floor : Nat) : Limit :=
  let most := max most 1
  { most, floor := min (max floor 1) most, window := [], answered := 0, current := most }

/-- The share of a maximum that corresponds to a share of answers, in numbers
of 53 significant bits. -/
def share (most answered count : Nat) : Nat :=
  let ratio := ({ numerator := answered, denominator := count } : Number.Ratio).significant
  ((({ numerator := most } : Number.Ratio).significant.mul ratio).significant).rounded

/-- The limit after one more probe came to an end.  Only a probe that timed out
counts as not answered. -/
def record (limit : Limit) (verdict : Verdict) : Limit :=
  if limit.floor = limit.most then limit
  else
    let isAnswered := verdict != .timedOut
    let window := limit.window ++ [isAnswered]
    let answered := limit.answered + (if isAnswered then 1 else 0)
    let isOver := windowSize < window.length
    let answered := if isOver && window.head? == some true then answered - 1 else answered
    let window := if isOver then window.drop 1 else window
    { limit with
      window
      answered
      current := min (max (share limit.most answered window.length) limit.floor) limit.most }

end Limit

end FieldSurvey.Probe
