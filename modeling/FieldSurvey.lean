import FieldSurvey.Address.Interface
import FieldSurvey.Address.Ip
import FieldSurvey.Address.Range
import FieldSurvey.Address.Route
import FieldSurvey.Address.V4
import FieldSurvey.Address.V6
import FieldSurvey.App
import FieldSurvey.Digest.Sha256
import FieldSurvey.Document.Basic
import FieldSurvey.Document.Codec
import FieldSurvey.Document.Dialect
import FieldSurvey.Document.JsonReader
import FieldSurvey.Document.JsonWriter
import FieldSurvey.Document.Yaml.Dialect
import FieldSurvey.Document.Yaml.Edition
import FieldSurvey.Document.Yaml.Layout
import FieldSurvey.Document.Yaml.Node
import FieldSurvey.Document.Yaml.Place
import FieldSurvey.Document.Yaml.Plain
import FieldSurvey.Document.Yaml.Quoted
import FieldSurvey.Document.Yaml.Reader
import FieldSurvey.Document.Yaml.Tokens
import FieldSurvey.Identity
import FieldSurvey.Model.Application
import FieldSurvey.Model.Discovered
import FieldSurvey.Model.Endpoint
import FieldSurvey.Model.Kinds
import FieldSurvey.Model.Mode
import FieldSurvey.Model.Progress
import FieldSurvey.Model.Record
import FieldSurvey.Model.Registration
import FieldSurvey.Model.Request
import FieldSurvey.Number.Binary
import FieldSurvey.Number.Decimal
import FieldSurvey.Number.Double
import FieldSurvey.Number.Literal
import FieldSurvey.ParseError
import FieldSurvey.Plan
import FieldSurvey.Port.Range
import FieldSurvey.Probe.Limit
import FieldSurvey.Probe.Pool
import FieldSurvey.Probe.Scan
import FieldSurvey.Program
import FieldSurvey.Proofs.Address.Grammar
import FieldSurvey.Proofs.Address.Hosts
import FieldSurvey.Proofs.Address.Merging
import FieldSurvey.Proofs.Address.Texts
import FieldSurvey.Proofs.App.History
import FieldSurvey.Proofs.App.Turn
import FieldSurvey.Proofs.Document.Records
import FieldSurvey.Proofs.Identity
import FieldSurvey.Proofs.Model.Registration
import FieldSurvey.Proofs.Model.RoundTrip
import FieldSurvey.Proofs.Number.Literal
import FieldSurvey.Proofs.Plan.Coverage
import FieldSurvey.Proofs.Port.Grammar
import FieldSurvey.Proofs.Port.Texts
import FieldSurvey.Proofs.Probe.Answering
import FieldSurvey.Proofs.Probe.Completion
import FieldSurvey.Proofs.Probe.Course
import FieldSurvey.Proofs.Probe.Limit
import FieldSurvey.Proofs.Probe.Progress
import FieldSurvey.Proofs.Probe.Regulation
import FieldSurvey.Proofs.Probe.Sequence
import FieldSurvey.Proofs.Program.Ensures
import FieldSurvey.Proofs.Program.Monitor
import FieldSurvey.Proofs.Program.Run
import FieldSurvey.Proofs.Registry.Commutation
import FieldSurvey.Proofs.Registry.Confinement
import FieldSurvey.Proofs.Registry.Consistency
import FieldSurvey.Proofs.Registry.Contention
import FieldSurvey.Proofs.Registry.Effects
import FieldSurvey.Proofs.Registry.Grouping
import FieldSurvey.Proofs.Registry.Hardship
import FieldSurvey.Proofs.Registry.Intent
import FieldSurvey.Proofs.Registry.Interleaving
import FieldSurvey.Proofs.Registry.Isolation
import FieldSurvey.Proofs.Registry.Ledger
import FieldSurvey.Proofs.Registry.Lineage
import FieldSurvey.Proofs.Registry.Listing
import FieldSurvey.Proofs.Registry.Lodging
import FieldSurvey.Proofs.Registry.Outlook
import FieldSurvey.Proofs.Registry.Ownership
import FieldSurvey.Proofs.Registry.Passes
import FieldSurvey.Proofs.Registry.Persistence
import FieldSurvey.Proofs.Registry.Portion
import FieldSurvey.Proofs.Registry.Reconciliation
import FieldSurvey.Proofs.Registry.Regrouping
import FieldSurvey.Proofs.Registry.Replay
import FieldSurvey.Proofs.Registry.Rescan
import FieldSurvey.Proofs.Registry.Resumption
import FieldSurvey.Proofs.Registry.Serialisation
import FieldSurvey.Proofs.Registry.Session
import FieldSurvey.Proofs.Registry.Sparing
import FieldSurvey.Proofs.Registry.Store
import FieldSurvey.Proofs.Registry.Tally
import FieldSurvey.Proofs.Registry.Undated
import FieldSurvey.Proofs.Registry.Unreliable
import FieldSurvey.Proofs.Registry.Visibility
import FieldSurvey.Proofs.Registry.Weathering
import FieldSurvey.Proofs.Registry.Writing
import FieldSurvey.Proofs.Survey.Advance
import FieldSurvey.Proofs.Survey.Bookkeeping
import FieldSurvey.Proofs.Survey.Calls
import FieldSurvey.Proofs.Survey.Candour
import FieldSurvey.Proofs.Survey.Catalog
import FieldSurvey.Proofs.Survey.Conclusion
import FieldSurvey.Proofs.Survey.Consolidation
import FieldSurvey.Proofs.Survey.Course
import FieldSurvey.Proofs.Survey.Finite
import FieldSurvey.Proofs.Survey.Gathering
import FieldSurvey.Proofs.Survey.Inquiring
import FieldSurvey.Proofs.Survey.Noticing
import FieldSurvey.Proofs.Survey.Progress
import FieldSurvey.Proofs.Survey.Protocol
import FieldSurvey.Proofs.Survey.Repeats
import FieldSurvey.Proofs.Survey.Sweeping
import FieldSurvey.Proofs.Surveyor.Accepting
import FieldSurvey.Proofs.Surveyor.Admission
import FieldSurvey.Proofs.Surveyor.Alarm
import FieldSurvey.Proofs.Surveyor.Balance
import FieldSurvey.Proofs.Surveyor.Cancelling
import FieldSurvey.Proofs.Surveyor.Carrying
import FieldSurvey.Proofs.Surveyor.Chronicle
import FieldSurvey.Proofs.Surveyor.Demand
import FieldSurvey.Proofs.Surveyor.Faithful
import FieldSurvey.Proofs.Surveyor.Finishing
import FieldSurvey.Proofs.Surveyor.Firing
import FieldSurvey.Proofs.Surveyor.Order
import FieldSurvey.Proofs.Surveyor.Pacing
import FieldSurvey.Proofs.Surveyor.Progress
import FieldSurvey.Proofs.Surveyor.Publishing
import FieldSurvey.Proofs.Surveyor.Quiescence
import FieldSurvey.Proofs.Surveyor.Renewal
import FieldSurvey.Proofs.Surveyor.Requests
import FieldSurvey.Proofs.Surveyor.Serial
import FieldSurvey.Proofs.Surveyor.Timer
import FieldSurvey.Proofs.Surveyor.Turn
import FieldSurvey.Proofs.Surveyor.Watch
import FieldSurvey.Proofs.Text.Grammar
import FieldSurvey.Proofs.Text.Pieces
import FieldSurvey.Proofs.Time.Timestamp
import FieldSurvey.Registry.Calls
import FieldSurvey.Registry.Candidate
import FieldSurvey.Registry.Delivery
import FieldSurvey.Registry.Listing
import FieldSurvey.Registry.Reconciliation
import FieldSurvey.Registry.Revision
import FieldSurvey.Registry.Store
import FieldSurvey.Rehearsal.Calls
import FieldSurvey.Rehearsal.Cast
import FieldSurvey.Rehearsal.Disturbance
import FieldSurvey.Rehearsal.Probing
import FieldSurvey.Rehearsal.Stage
import FieldSurvey.Settings.Basic
import FieldSurvey.Settings.Check
import FieldSurvey.Settings.Fault
import FieldSurvey.Settings.Layers
import FieldSurvey.Settings.Load
import FieldSurvey.Settings.Path
import FieldSurvey.Settings.Scalar
import FieldSurvey.Sink.Channel
import FieldSurvey.Sink.Log
import FieldSurvey.Survey.Activity
import FieldSurvey.Survey.Batch
import FieldSurvey.Survey.Calls
import FieldSurvey.Survey.Catalog
import FieldSurvey.Survey.Event
import FieldSurvey.Survey.Run
import FieldSurvey.Survey.Target
import FieldSurvey.Survey.Targets
import FieldSurvey.Surveyor.Basic
import FieldSurvey.Surveyor.Chronicle
import FieldSurvey.Surveyor.Clockwork
import FieldSurvey.Surveyor.Collaborator
import FieldSurvey.Surveyor.Schedule
import FieldSurvey.Surveyor.Submission
import FieldSurvey.Surveyor.Timer
import FieldSurvey.Surveyor.Work
import FieldSurvey.Text.Basic
import FieldSurvey.Text.Lowercase
import FieldSurvey.Text.Set
import FieldSurvey.Time.Reader
import FieldSurvey.Time.Timestamp
import FieldSurvey.Url.Basic
import FieldSurvey.Url.Host
import FieldSurvey.Url.Name.Ascii
import FieldSurvey.Url.Name.Composition
import FieldSurvey.Url.Name.CompositionTable
import FieldSurvey.Url.Name.Label
import FieldSurvey.Url.Name.MappingTable
import FieldSurvey.Url.Name.Mark
import FieldSurvey.Url.Name.Punycode
import FieldSurvey.Url.Name.RefusalTable
import FieldSurvey.Url.Name.WritingTable
import FieldSurvey.Url.Path
import FieldSurvey.Url.Percent
import FieldSurvey.Url.Reader
