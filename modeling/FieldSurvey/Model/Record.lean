import FieldSurvey.Model.Registration

/-!
# Result records

A run publishes its results as a batch: one record for every endpoint, and at
the end a record without endpoint that tells which request the batch belongs
to.
-/

namespace FieldSurvey.Model

open Document
open Text (TextTable)

/-- The request behind a batch, and counts over the batch. -/
structure BatchInfo where
  id : Option String := none
  mode : Option Mode := none
  config : Option ScanConfig := none
  context : Option Context := none
  diagnostics : TextTable := .empty
  deriving DecidableEq

instance : Codec BatchInfo where
  read := RecordReader.run do
    let id ← .optional "id"
    let mode ← .optional "discovery"
    let config ← .optional "discovery_config"
    let context ← .optional "context"
    let diagnostics ← .withDefault "diagnostics" .empty
    return { id, mode, config, context, diagnostics }
  write info := .record (
    fieldIfSome "id" info.id ++
    fieldIfSome "discovery" info.mode ++
    fieldIfSome "discovery_config" info.config ++
    fieldIfSome "context" info.context ++
    fieldIfFilled "diagnostics" info.diagnostics)

/-- One record of a batch. -/
structure ResultRecord where
  index : UInt32
  timestamp : Time.Timestamp
  application : Option Application := none
  endpoint : Option Endpoint := none
  info : Option BatchInfo := none
  deriving DecidableEq

instance : Codec ResultRecord where
  read := RecordReader.run do
    let index ← .required "index"
    let timestamp ← .required "timestamp"
    let application ← .optional "application"
    let endpoint ← .optional "endpoint"
    let info ← .optional "result"
    return { index, timestamp, application, endpoint, info }
  write result := .record (
    field "index" result.index ++
    field "timestamp" result.timestamp ++
    fieldIfSome "application" result.application ++
    fieldIfSome "endpoint" result.endpoint ++
    fieldIfSome "result" result.info)

/-- Whether a record closes its batch. -/
def ResultRecord.isSentinel (result : ResultRecord) : Bool :=
  result.endpoint.isNone

end FieldSurvey.Model
