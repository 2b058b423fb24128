import FieldSurvey.Address.Ip
import FieldSurvey.Address.Range
import FieldSurvey.Port.Range
import FieldSurvey.Probe.Pool

/-!
# Scans

A scan of hosts probes every address of a list of ranges.  A scan of ports
probes every port of a list of ranges on every address, one address after the
other.
-/

namespace FieldSurvey.Probe

open Address (Ip Socket)

/-- A pool's settings and its targets. -/
structure Scan (τ : Type) where
  config : PoolConfig
  targets : Targets τ
  /-- the number of targets -/
  total : Nat

namespace Scan

/-- The scan of hosts; `interval` is the time between two progress reports. -/
def hosts (ranges : List Address.Range) (maxProbes : UInt64) (timeout interval : Nat) :
    Scan Ip where
  config := (PoolConfig.fixed maxProbes timeout).withInterval interval
  targets := fun position => (Address.Range.nth? ranges position).map .v4
  total := Address.Range.total ranges

/-- The socket at a position of a scan of ports. -/
def socketAt (addresses : List Ip) (ports : List Port.Range) : Targets Socket :=
  fun position => do
    let count := Port.Range.total ports
    let ip ← addresses[position / count]?
    let port ← Port.Range.nth? ports (position % count)
    some { ip, port }

/-- The scan of ports, with limits as arithmetic without checks forms them. -/
def ports (addresses : List Ip) (ports : List Port.Range) (maxProbes : UInt64)
    (percent : UInt32) (timeout interval : Nat) : Scan Socket where
  config := (PoolConfig.adaptive maxProbes percent timeout).withInterval interval
  targets := socketAt addresses ports
  total := addresses.length * Port.Range.total ports

/-- The scan of ports, with limits as checked arithmetic forms them, if it does. -/
def ports? (addresses : List Ip) (ranges : List Port.Range) (maxProbes : UInt64)
    (percent : UInt32) (timeout interval : Nat) : Option (Scan Socket) :=
  (PoolConfig.adaptive? maxProbes percent timeout).map fun config =>
    { ports addresses ranges maxProbes percent timeout interval with
      config := config.withInterval interval }

end Scan

end FieldSurvey.Probe
