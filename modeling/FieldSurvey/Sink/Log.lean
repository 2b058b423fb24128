import FieldSurvey.Model.Progress
import FieldSurvey.Settings.Check

/-!
# Progress in the log

Every progress event becomes one log line.  The events that begin and end a
request matter more than those in between.
-/

namespace FieldSurvey.Sink

open Model (Progress)
open Settings (LogLevel)

/-- A log line: how much it matters, and its named values. -/
structure LogLine where
  level : LogLevel
  fields : List (String × Document)

/-- A number that counts as zero if it is missing. -/
def orZero (value : Option UInt64) : Document :=
  .natural (value.getD 0).toNat

/-- The log line of an event. -/
def LogLine.ofProgress (event : Progress) : LogLine :=
  let line (level : LogLevel) (message : String) (fields : List (String × Document)) : LogLine :=
    { level
      fields := ("message", .text message) ::
        ("request_id", .text (event.requestId.getD "")) :: fields }
  let kind : String × Document := ("event", .text event.kind.name)
  let result : Document := .text (event.result.getD "")
  match event.kind with
  | .pending => line .info "Discovery request pending" [("pending", orZero event.total)]
  | .started => line .info "Discovery started" []
  | .finished => line .info "Discovery finished" [("discovered", orZero event.discovered)]
  | .cancelled => line .info "Discovery cancelled" []
  | .error => line .warn "Discovery failed" [("error", result)]
  | .networkScanResult | .portScanResult | .endpointsDiscoveryFinished =>
    line .debug "Discovery progress"
      [kind, ("result", result), ("discovered", orZero event.discovered)]
  | _ =>
    line .debug "Discovery progress"
      [kind, ("progress", orZero event.progress), ("total", orZero event.total),
        ("workers", orZero event.workers)]

end FieldSurvey.Sink
