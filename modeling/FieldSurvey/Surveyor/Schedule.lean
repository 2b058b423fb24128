import FieldSurvey.Surveyor.Submission

/-!
# Periodic scans

The standing request is submitted whenever the timer fires, in place of the scans
that are still pending.  The timer is armed at the start, for an immediate scan,
when a standing request is set and no scan is pending, after a scan has ended,
and after one was rejected.
-/

namespace FieldSurvey.Surveyor

open Model (Mode ScanConfig)

/-- A surveyor at its start. -/
def start (discoverer : Settings.Discoverer)
    (capacity initialDelay reportInterval : Nat) (isContainer : Bool) (now : Nat) : Surveyor :=
  ({ discoverer, capacity, initialDelay, reportInterval, isContainer } : Surveyor).arm
    now initialDelay

/-- Sets the standing request. -/
def configure (mode : Mode) (config : ScanConfig) (surroundings : Surroundings) (now : Nat)
    (surveyor : Surveyor) : Surveyor :=
  let surveyor :=
    { surveyor with
      standing := .ofRequest { mode := some mode, config := some config } surroundings }
  if surveyor.hasScan then surveyor
  else { surveyor with timer := surveyor.timer.ensureArmed now surveyor.initialDelay }

section

variable (surveyor : Surveyor) (mode : Mode) (config : ScanConfig) (surroundings : Surroundings)
  (now : Nat)

theorem configure_eq : surveyor.configure mode config surroundings now =
    { surveyor with
      standing := .ofRequest { mode := some mode, config := some config } surroundings
      timer :=
        if surveyor.hasScan then surveyor.timer
        else surveyor.timer.ensureArmed now surveyor.initialDelay } := by
  cases scan : surveyor.hasScan with
  | true => exact if_pos scan
  | false => exact if_neg (ne_true_of_eq_false scan)

@[simp]
theorem standing_configure : (surveyor.configure mode config surroundings now).standing =
    .ofRequest { mode := some mode, config := some config } surroundings := by
  rw [configure_eq]

@[simp]
theorem pending_configure :
    (surveyor.configure mode config surroundings now).pending = surveyor.pending := by
  rw [configure_eq]

@[simp]
theorem hasScan_configure :
    (surveyor.configure mode config surroundings now).hasScan = surveyor.hasScan := by
  rw [hasScan, pending_configure, hasScan]

@[simp]
theorem isStopping_configure :
    (surveyor.configure mode config surroundings now).isStopping = surveyor.isStopping := by
  rw [configure_eq]

@[simp]
theorem stats_configure :
    (surveyor.configure mode config surroundings now).stats = surveyor.stats := by
  rw [configure_eq]

@[simp]
theorem timer_configure_of_isArmed {surveyor : Surveyor} (armed : surveyor.timer.isArmed) :
    (surveyor.configure mode config surroundings now).timer = surveyor.timer := by
  simp [configure_eq, armed]

end

/-- Has the standing request submitted at once. -/
def scan (now : Nat) (surveyor : Surveyor) : Surveyor :=
  surveyor.arm now 0

/-- Submits the standing request, unless it is off, in place of the scans that
are pending. -/
def schedule (now : Nat) (surveyor : Surveyor) : Surveyor × List Signal :=
  let surveyor := surveyor.cancelWhere Job.isScan
  if surveyor.standing.plan.mode = .off then (surveyor, [])
  else
    let job := surveyor.standing.renew.asScan
    match surveyor.submit job with
    | (none, surveyor, signals) => (surveyor, signals)
    | (some _, surveyor, signals) => (surveyor.arm now job.idleMillis, signals)

/-- Fires the timer if it is time to. -/
def fire (now : Nat) (surveyor : Surveyor) : Surveyor × List Signal :=
  if surveyor.timer.isDue now then
    let surveyor := { surveyor with timer := surveyor.timer.fired }
    if surveyor.isStopping then (surveyor, []) else surveyor.schedule now
  else (surveyor, [])

end FieldSurvey.Surveyor
