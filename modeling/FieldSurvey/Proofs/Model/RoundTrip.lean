import FieldSurvey.Model.Progress
import FieldSurvey.Model.Record
import FieldSurvey.Proofs.Document.Records
import FieldSurvey.Proofs.Model.Registration
import FieldSurvey.Proofs.Time.Timestamp
import FieldSurvey.Settings.Basic

/-!
# Models read back

Every value of a model is read back from its document, and from every document that has the same
fields in another order and unknown ones besides.  This takes for granted that its timestamps are
read back, which just the valid ones are.  As only valid timestamps are read, a value that was read
from any document at all is read back without a condition.
-/

namespace FieldSurvey

open Text (TextSet TextTable)
open Time (Timestamp)

/-! ## Sets, tables and timestamps -/

theorem Text.TextSet.ofList_items (set : TextSet) : TextSet.ofList set.items = set := by
  apply TextSet.eq_of_mem_iff
  intro text
  rw [TextSet.ofList, TextSet.mem_foldl_insert]
  exact or_iff_right List.not_mem_nil

instance : Lossless TextSet where
  readsBack set := readsBack_of_plain (by
    have items := Lossless.readsBack set.items _ (.same _ _)
    change (Codec.read .json (Codec.write set.items)).map TextSet.ofList = some set
    rw [items, Option.map_some, TextSet.ofList_items])

namespace Text.TextTable

theorem insertInto_of_lt {key value : String} {entries : List (String × String)}
    (last : ∀ entry ∈ entries, entry.1 < key) :
    insertInto key value entries = entries ++ [(key, value)] := by
  induction entries with
  | nil => rfl
  | cons first rest ih =>
      obtain ⟨less, last⟩ := List.forall_mem_cons.mp last
      rw [insertInto, if_neg (String.lt_asymm less), if_neg (String.ne_of_lt less).symm, ih last]
      rfl

/-- Entries behind those of a table are put at its end. -/
theorem entries_foldl_insert (table : TextTable) (entries : List (String × String))
    (ascending : ((table.entries ++ entries).map Prod.fst).Pairwise (· < ·)) :
    (entries.foldl (fun table (key, value) => table.insert key value) table).entries =
      table.entries ++ entries := by
  induction entries generalizing table with
  | nil => exact (List.append_nil _).symm
  | cons first rest ih =>
      obtain ⟨key, value⟩ := first
      have last : ∀ entry ∈ table.entries, entry.1 < key := by
        intro entry isEntry
        rw [List.map_append, List.pairwise_append] at ascending
        exact ascending.2.2 _ (List.mem_map_of_mem isEntry) _ List.mem_cons_self
      have inserted : (table.insert key value).entries = table.entries ++ [(key, value)] :=
        insertInto_of_lt last
      rw [List.append_cons] at ascending ⊢
      rw [List.foldl_cons, ih _ (inserted ▸ ascending), inserted]

theorem ofList_entries (table : TextTable) : ofList table.entries = table := by
  obtain ⟨entries, ascending⟩ := table
  have same := entries_foldl_insert empty entries ascending
  change (ofList entries).entries = entries at same
  cases list : ofList entries
  rw [list] at same
  cases same
  rfl

end Text.TextTable

theorem Codec.readEntries_map_text (entries : List (String × String)) :
    Codec.readEntries .json (entries.map fun (key, value) => (key, .text value)) =
      some entries := by
  induction entries with
  | nil => rfl
  | cons first rest ih =>
      unfold readEntries at ih ⊢
      rw [List.map_cons, List.mapM_cons, ih]
      rfl

instance : Lossless TextTable where
  readsBack table := readsBack_of_plain (by
    change (Codec.readEntries .json _).map TextTable.ofList = some table
    rw [Codec.readEntries_map_text, Option.map_some, TextTable.ofList_entries])

/-- Just the valid timestamps are read back. -/
theorem Time.Timestamp.readsBack_iff {time : Timestamp} : ReadsBack time ↔ time.IsValid := by
  have read_eq : Codec.read .json (Codec.write time) = Reader.timestamp? time.toText :=
    Option.bind_some time.toText Reader.timestamp?
  rw [← Reader.timestamp?_toText_iff, ← read_eq]
  exact ⟨fun readsBack => readsBack _ (.same _ _), fun read => readsBack_of_plain read⟩

end FieldSurvey

namespace FieldSurvey.Model

open Time (Timestamp)

/-! ## Variants -/

instance : Shaped Mode := ⟨.plain⟩

instance : Lossless Mode where
  readsBack mode := readsBack_ofNames (by decide) (by cases mode <;> decide)

instance : Shaped Visibility := ⟨.plain⟩

instance : Lossless Visibility where
  readsBack kind := readsBack_ofNames (by decide) (by cases kind <;> decide)

instance : Shaped ApplicationType := ⟨.plain⟩

instance : Lossless ApplicationType where
  readsBack kind := readsBack_ofNames (by decide) (by cases kind <;> decide)

instance : Shaped SecurityMode := ⟨.plain⟩

instance : Lossless SecurityMode where
  readsBack mode := readsBack_ofNames (by decide) (by cases mode <;> decide)

instance : Shaped Credential := ⟨.plain⟩

instance : Lossless Credential where
  readsBack kind := readsBack_ofNames (by decide) (by cases kind <;> decide)

instance : Shaped ProgressKind := ⟨.plain⟩

instance : Lossless ProgressKind where
  readsBack kind := readsBack_ofNames (by decide) (by cases kind <;> decide)

instance : Shaped Settings.LogFormat := ⟨.plain⟩

instance : Lossless Settings.LogFormat where
  readsBack kind := readsBack_ofNames (by decide) (by cases kind <;> decide)

/-! ## Records without timestamps -/

instance : Shaped ScanConfig where
  shape := .record [("address_ranges_to_scan", .plain), ("network_probe_timeout_ms", .plain),
    ("max_network_probes", .plain), ("port_ranges_to_scan", .plain),
    ("port_probe_timeout_ms", .plain), ("max_port_probes", .plain),
    ("min_port_probes_percent", .plain), ("idle_time_between_scans_secs", .plain),
    ("discovery_urls", .list .plain), ("locales", .list .plain)]

instance : Lossless ScanConfig where
  readsBack config := by
    refine readsBack_of_mirrors ?_
    simp only [List.append_assoc]
    exact .field .ifSome <| .field .ifSome <| .field .ifSome <| .field .ifSome <|
      .field .ifSome <| .field .ifSome <| .field .ifSome <| .field .ifSome <|
      .field .ifSome <| .field .ifSome <| .done config

instance : Shaped ApplicationDescription where
  shape := .record [("application_uri", .plain), ("application_type", .plain),
    ("product_uri", .plain), ("application_name", .plain), ("locale", .plain),
    ("gateway_server_uri", .plain), ("discovery_profile_uri", .plain),
    ("discovery_urls", .list .plain)]

instance : Lossless ApplicationDescription where
  readsBack description := by
    refine readsBack_of_mirrors ?_
    simp only [List.append_assoc]
    exact .field .required <| .field .withDefault <| .field .ifSome <| .field .ifSome <|
      .field .ifSome <| .field .ifSome <| .field .ifSome <| .field .withDefault <|
      .done description

instance : Shaped EndpointDescription where
  shape := .record [("endpoint_url", .plain), ("server", Shaped.shape ApplicationDescription),
    ("server_certificate", .list .plain), ("security_mode", .plain),
    ("security_policy_uri", .plain), ("security_level", .plain),
    ("user_identity_tokens", .list .plain)]

instance : Lossless EndpointDescription where
  readsBack description := by
    refine readsBack_of_mirrors ?_
    simp only [List.append_assoc]
    exact .field .required <| .field .required <| .field .ifSome <| .field .required <|
      .field .ifSome <| .field .ifSome <| .field .withDefault <| .done description

instance : Shaped DiscoveredEndpoint where
  shape := .record [("description", Shaped.shape EndpointDescription),
    ("accessible_endpoint_url", .plain), ("capabilities", .plain)]

instance : Lossless DiscoveredEndpoint where
  readsBack endpoint := by
    refine readsBack_of_mirrors ?_
    simp only [List.append_assoc]
    exact .field .required <| .field .required <| .field .withDefault <| .done endpoint

end FieldSurvey.Model

namespace FieldSurvey.Settings

instance : Shaped Discoverer where
  shape := .record [("id", .plain), ("site_id", .plain)]

instance : Lossless Discoverer where
  readsBack discoverer := by
    refine readsBack_of_mirrors ?_
    simp only [List.append_assoc]
    exact .field .withDefault <| .field .orNull <| .done discoverer

instance : Shaped Discovery where
  shape := .record [("mode", .plain), ("configuration", Shaped.shape Model.ScanConfig),
    ("initial_scan_delay_secs", .plain), ("queue_capacity", .plain),
    ("progress_interval_secs", .plain)]

instance : Lossless Discovery where
  readsBack discovery := by
    refine readsBack_of_mirrors ?_
    simp only [List.append_assoc]
    exact .field .withDefault <| .field .withDefault <| .field .withDefault <|
      .field .withDefault <| .field .withDefault <| .done discovery

instance : Shaped Settings.Registry where
  shape := .record [("max_update_retries", .plain)]

instance : Lossless Settings.Registry where
  readsBack registry := by
    refine readsBack_of_mirrors ?_
    exact .field .withDefault <| .done registry

instance : Shaped Logging where
  shape := .record [("level", .plain), ("format", .plain)]

instance : Lossless Logging where
  readsBack logging := by
    refine readsBack_of_mirrors ?_
    simp only [List.append_assoc]
    exact .field .withDefault <| .field .withDefault <| .done logging

instance : Shaped CatalogEndpoint where
  shape := .record [("endpoint_url", .plain), ("security_mode", .plain),
    ("security_policy_uri", .plain), ("security_level", .plain),
    ("user_identity_tokens", .list .plain)]

instance : Lossless CatalogEndpoint where
  readsBack endpoint := by
    refine readsBack_of_mirrors ?_
    simp only [List.append_assoc]
    exact .field .orNull <| .field .withDefault <| .field .orNull <| .field .orNull <|
      .field .withDefault <| .done endpoint

instance : Shaped CatalogServer where
  shape := .record [("discovery_url", .plain),
    ("application", Shaped.shape Model.ApplicationDescription),
    ("endpoints", .list (Shaped.shape CatalogEndpoint))]

instance : Lossless CatalogServer where
  readsBack server := by
    refine readsBack_of_mirrors ?_
    simp only [List.append_assoc]
    exact .field .required <| .field .required <| .field .withDefault <| .done server

instance : Shaped Settings where
  shape := .record [("discoverer", Shaped.shape Discoverer),
    ("discovery", Shaped.shape Discovery), ("registry", Shaped.shape Settings.Registry),
    ("logging", Shaped.shape Logging), ("catalog", .list (Shaped.shape CatalogServer))]

instance : Lossless Settings where
  readsBack settings := by
    refine readsBack_of_mirrors ?_
    simp only [List.append_assoc]
    exact .field .withDefault <| .field .withDefault <| .field .withDefault <|
      .field .withDefault <| .field .withDefault <| .done settings

end FieldSurvey.Settings

namespace FieldSurvey

open Time (Timestamp)

/-! ## Timestamps in values -/

/-- A type whose values may hold timestamps. -/
class Dated (α : Type) where
  timestamps : α → List Timestamp

/-- Whether all timestamps in a value are read back. -/
def Timely {α : Type} [Dated α] (value : α) : Prop :=
  ∀ time ∈ Dated.timestamps value, ReadsBack time

instance : Dated Timestamp := ⟨fun time => [time]⟩
instance {α : Type} [Dated α] : Dated (Option α) :=
  ⟨fun value => value.toList.flatMap Dated.timestamps⟩
instance {α : Type} [Dated α] : Dated (List α) := ⟨fun items => items.flatMap Dated.timestamps⟩

/-- A type whose values are read back if their timestamps are, as those of all read values are. -/
class Recovers (α : Type) [Codec α] [Shaped α] [Dated α] : Prop where
  readsBack : ∀ {value : α}, Timely value → ReadsBack value
  allRead : AllRead (Timely : α → Prop)

instance : Recovers Timestamp where
  readsBack timely := List.forall_mem_singleton.mp timely
  allRead _ _ read := by
    obtain ⟨text, -, read⟩ := Option.bind_eq_some_iff.mp read
    have isValid := Time.Reader.isValid_of_timestamp? read
    exact List.forall_mem_singleton.mpr (Timestamp.readsBack_iff.mpr isValid)

section Recovers

variable {α : Type} [Dated α]

theorem timely_option {value : Option α} : Timely value ↔ ∀ inner ∈ value, Timely inner := by
  refine List.forall_mem_flatMap.trans ?_
  simp only [Option.mem_toList, Option.mem_def]
  rfl

theorem timely_list {items : List α} : Timely items ↔ ∀ item ∈ items, Timely item :=
  List.forall_mem_flatMap

variable [Codec α] [Shaped α] [Recovers α]

instance : Recovers (List α) where
  readsBack timely := readsBack_list fun item isItem =>
    Recovers.readsBack (timely_list.mp timely item isItem)
  allRead _ _ read := timely_list.mpr (Recovers.allRead.list read)

theorem readsBack_of_mem {value : Option α} (timely : Timely value) :
    ∀ inner ∈ value, ReadsBack inner :=
  fun inner isInner => Recovers.readsBack (timely_option.mp timely inner isInner)

theorem Yields.optionalTimely {name : String} :
    Yields (RecordReader.optional (α := α) name) Timely :=
  fun _ _ _ read => timely_option.mpr (Yields.optional Recovers.allRead read)

end Recovers

end FieldSurvey

namespace FieldSurvey.Model

open Dated (timestamps)

/-! ## Records with timestamps -/

instance : Shaped Context where
  shape := .record [("authority_id", .plain), ("time", .plain)]

instance : Dated Context := ⟨fun context => timestamps context.time⟩

instance : Recovers Context where
  readsBack {context} timely := by
    refine readsBack_of_mirrors ?_
    simp only [List.append_assoc]
    exact .field .ifSome <| .field (.required (Recovers.readsBack timely)) <| .done context
  allRead := Yields.run <| .skip fun _ =>
    .field (.required Recovers.allRead) fun _ time => .done time

instance : Shaped Request where
  shape := .record [("id", .plain), ("discovery", .plain),
    ("configuration", Shaped.shape ScanConfig), ("context", Shaped.shape Context)]

instance : Dated Request := ⟨fun request => timestamps request.context⟩

instance : Recovers Request where
  readsBack {request} timely := by
    refine readsBack_of_mirrors ?_
    simp only [List.append_assoc]
    exact .field .ifSome <| .field .ifSome <| .field .ifSome <|
      .field (.ifSome (readsBack_of_mem timely)) <| .done request
  allRead := Yields.run <| .skip fun _ => .skip fun _ => .skip fun _ =>
    .field .optionalTimely fun _ context => .done context

instance : Shaped Application where
  shape := .record [("application_id", .plain), ("application_type", .plain),
    ("application_uri", .plain), ("product_uri", .plain), ("application_name", .plain),
    ("locale", .plain), ("capabilities", .plain), ("discovery_urls", .plain),
    ("discovery_profile_uri", .plain), ("host_addresses", .plain), ("gateway_server_uri", .plain),
    ("certificate", .list .plain), ("discoverer_id", .plain), ("site_id", .plain),
    ("visibility", .plain), ("not_seen_since", .plain), ("created", Shaped.shape Context),
    ("updated", Shaped.shape Context), ("generation_id", .plain)]

instance : Dated Application where
  timestamps application :=
    timestamps application.notSeenSince ++ timestamps application.created ++
      timestamps application.updated

theorem Application.timely_iff {application : Application} : Timely application ↔
    (Timely application.notSeenSince ∧ Timely application.created) ∧
      Timely application.updated :=
  List.forall_mem_append.trans (and_congr_left' List.forall_mem_append)

instance : Recovers Application where
  readsBack {application} timely := by
    obtain ⟨⟨notSeenSince, created⟩, updated⟩ := Application.timely_iff.mp timely
    refine readsBack_of_mirrors ?_
    simp only [List.append_assoc]
    exact .field .required <| .field .withDefault <| .field .required <| .field .ifSome <|
      .field .ifSome <| .field .ifSome <| .field .withDefault <| .field .withDefault <|
      .field .ifSome <| .field .withDefault <| .field .ifSome <| .field .ifSome <|
      .field .ifSome <| .field .ifSome <| .field .withDefault <|
      .field (.ifSome (readsBack_of_mem notSeenSince)) <|
      .field (.ifSome (readsBack_of_mem created)) <|
      .field (.ifSome (readsBack_of_mem updated)) <| .field .ifSome <| .done application
  allRead := Yields.run <| .skip fun _ => .skip fun _ => .skip fun _ => .skip fun _ =>
    .skip fun _ => .skip fun _ => .skip fun _ => .skip fun _ => .skip fun _ => .skip fun _ =>
    .skip fun _ => .skip fun _ => .skip fun _ => .skip fun _ => .skip fun _ =>
    .field .optionalTimely fun _ notSeenSince => .field .optionalTimely fun _ created =>
    .field .optionalTimely fun _ updated => .skip fun _ =>
    .done (Application.timely_iff.mpr ⟨⟨notSeenSince, created⟩, updated⟩)

instance : Shaped Endpoint where
  shape := .record [("id", .plain), ("application_id", .plain), ("endpoint_url", .plain),
    ("alternative_urls", .plain), ("security_mode", .plain), ("security_policy", .plain),
    ("security_level", .plain), ("authentication_methods", .list .plain),
    ("certificate_thumbprint", .plain), ("discoverer_id", .plain), ("site_id", .plain),
    ("visibility", .plain), ("not_seen_since", .plain), ("generation_id", .plain)]

instance : Dated Endpoint := ⟨fun endpoint => timestamps endpoint.notSeenSince⟩

instance : Recovers Endpoint where
  readsBack {endpoint} timely := by
    refine readsBack_of_mirrors ?_
    simp only [List.append_assoc]
    exact .field .required <| .field .required <| .field .required <| .field .withDefault <|
      .field .ifSome <| .field .ifSome <| .field .ifSome <| .field .withDefault <|
      .field .ifSome <| .field .ifSome <| .field .ifSome <| .field .withDefault <|
      .field (.ifSome (readsBack_of_mem timely)) <| .field .ifSome <| .done endpoint
  allRead := Yields.run <| .skip fun _ => .skip fun _ => .skip fun _ => .skip fun _ =>
    .skip fun _ => .skip fun _ => .skip fun _ => .skip fun _ => .skip fun _ => .skip fun _ =>
    .skip fun _ => .skip fun _ => .field .optionalTimely fun _ notSeenSince => .skip fun _ =>
    .done notSeenSince

instance : Shaped Registration where
  shape := .record [("application", Shaped.shape Application),
    ("endpoints", .list (Shaped.shape Endpoint))]

instance : Dated Registration where
  timestamps registration :=
    timestamps registration.application ++ timestamps registration.endpoints

theorem Registration.timely_iff {registration : Registration} : Timely registration ↔
    Timely registration.application ∧ Timely registration.endpoints :=
  List.forall_mem_append

instance : Recovers Registration where
  readsBack {registration} timely := by
    obtain ⟨application, endpoints⟩ := Registration.timely_iff.mp timely
    refine readsBack_of_mirrors ?_
    simp only [List.append_assoc]
    exact .field (.required (Recovers.readsBack application)) <|
      .field (.withDefault (Recovers.readsBack endpoints)) <| .done registration
  allRead := Yields.run <| .field (.required Recovers.allRead) fun _ application =>
    .field (.withDefault Recovers.allRead (List.forall_mem_nil _)) fun _ endpoints =>
    .done (Registration.timely_iff.mpr ⟨application, endpoints⟩)

instance : Shaped BatchInfo where
  shape := .record [("id", .plain), ("discovery", .plain),
    ("discovery_config", Shaped.shape ScanConfig), ("context", Shaped.shape Context),
    ("diagnostics", .plain)]

instance : Dated BatchInfo := ⟨fun info => timestamps info.context⟩

instance : Recovers BatchInfo where
  readsBack {info} timely := by
    refine readsBack_of_mirrors ?_
    simp only [List.append_assoc]
    exact .field .ifSome <| .field .ifSome <| .field .ifSome <|
      .field (.ifSome (readsBack_of_mem timely)) <| .field .ifFilled <| .done info
  allRead := Yields.run <| .skip fun _ => .skip fun _ => .skip fun _ =>
    .field .optionalTimely fun _ context => .skip fun _ => .done context

instance : Shaped ResultRecord where
  shape := .record [("index", .plain), ("timestamp", .plain),
    ("application", Shaped.shape Application), ("endpoint", Shaped.shape Endpoint),
    ("result", Shaped.shape BatchInfo)]

instance : Dated ResultRecord where
  timestamps result :=
    timestamps result.timestamp ++ timestamps result.application ++
      (timestamps result.endpoint ++ timestamps result.info)

theorem ResultRecord.timely_iff {result : ResultRecord} : Timely result ↔
    (Timely result.timestamp ∧ Timely result.application) ∧
      Timely result.endpoint ∧ Timely result.info :=
  List.forall_mem_append.trans (and_congr List.forall_mem_append List.forall_mem_append)

instance : Recovers ResultRecord where
  readsBack {result} timely := by
    obtain ⟨⟨timestamp, application⟩, endpoint, info⟩ := ResultRecord.timely_iff.mp timely
    refine readsBack_of_mirrors ?_
    simp only [List.append_assoc]
    exact .field .required <| .field (.required (Recovers.readsBack timestamp)) <|
      .field (.ifSome (readsBack_of_mem application)) <|
      .field (.ifSome (readsBack_of_mem endpoint)) <|
      .field (.ifSome (readsBack_of_mem info)) <| .done result
  allRead := Yields.run <| .skip fun _ =>
    .field (.required Recovers.allRead) fun _ timestamp =>
    .field .optionalTimely fun _ application => .field .optionalTimely fun _ endpoint =>
    .field .optionalTimely fun _ info =>
    .done (ResultRecord.timely_iff.mpr ⟨⟨timestamp, application⟩, endpoint, info⟩)

instance : Shaped Progress where
  shape := .record [("timestamp", .plain), ("event_type", .plain), ("discoverer_id", .plain),
    ("request_id", .plain), ("context", Shaped.shape Context), ("workers", .plain),
    ("progress", .plain), ("total", .plain), ("discovered", .plain), ("result", .plain),
    ("result_details", .plain)]

instance : Dated Progress where
  timestamps event := timestamps event.timestamp ++ timestamps event.context

theorem Progress.timely_iff {event : Progress} : Timely event ↔
    Timely event.timestamp ∧ Timely event.context :=
  List.forall_mem_append

instance : Recovers Progress where
  readsBack {event} timely := by
    obtain ⟨timestamp, context⟩ := Progress.timely_iff.mp timely
    refine readsBack_of_mirrors ?_
    simp only [List.append_assoc]
    exact .field (.required (Recovers.readsBack timestamp)) <| .field .required <|
      .field .required <| .field .ifSome <| .field (.ifSome (readsBack_of_mem context)) <|
      .field .ifSome <| .field .ifSome <| .field .ifSome <| .field .ifSome <|
      .field .ifSome <| .field .ifFilled <| .done event
  allRead := Yields.run <| .field (.required Recovers.allRead) fun _ timestamp =>
    .skip fun _ => .skip fun _ => .skip fun _ => .field .optionalTimely fun _ context =>
    .skip fun _ => .skip fun _ => .skip fun _ => .skip fun _ => .skip fun _ => .skip fun _ =>
    .done (Progress.timely_iff.mpr ⟨timestamp, context⟩)

/-- Settings hold no timestamps. -/
instance : Dated Settings := ⟨fun _ => []⟩

instance : Recovers Settings where
  readsBack _ := Lossless.readsBack _
  allRead _ _ _ := List.forall_mem_nil _

/-- Descriptions hold no timestamps. -/
instance : Dated DiscoveredEndpoint := ⟨fun _ => []⟩

instance : Recovers DiscoveredEndpoint where
  readsBack _ := Lossless.readsBack _
  allRead _ _ _ := List.forall_mem_nil _

/-! ## Round trips -/

/-- How the values of a type pass through documents. -/
structure RoundTrips (α : Type) [Codec α] [Shaped α] [Dated α] : Prop where
  /-- A value is read back, also from a document with unknown fields, if its timestamps are. -/
  readsBack : ∀ value : α, (∀ time ∈ timestamps value, ReadsBack time) → ReadsBack value
  /-- A value that was read is read back, and written again as before. -/
  settles : ∀ (document : Document) (value : α), Codec.read .json document = some value →
    ∃ again, Codec.read .json (Codec.write value) = some again ∧ again = value ∧
      Codec.write again = Codec.write value

theorem roundTrips_of_recovers {α : Type} [Codec α] [Shaped α] [Dated α] [Recovers α] :
    RoundTrips α where
  readsBack _ timely := Recovers.readsBack timely
  settles _ value read :=
    ⟨value, Recovers.readsBack (Recovers.allRead read) _ (.same _ _), rfl, rfl⟩

/-- Every model passes through documents unchanged. -/
theorem models_round_trip :
    RoundTrips Settings ∧ RoundTrips Request ∧ RoundTrips Application ∧ RoundTrips Endpoint ∧
      RoundTrips Registration ∧ RoundTrips DiscoveredEndpoint ∧ RoundTrips ResultRecord ∧
      RoundTrips Progress :=
  ⟨roundTrips_of_recovers, roundTrips_of_recovers, roundTrips_of_recovers,
    roundTrips_of_recovers, roundTrips_of_recovers, roundTrips_of_recovers,
    roundTrips_of_recovers, roundTrips_of_recovers⟩

/-- An event with an unknown field in front is read as if it had none. -/
theorem annotated_event_round_trips :
    let event : Progress := { timestamp := .epoch, kind := .started, discovererId := "east" }
    (∀ time ∈ timestamps event, ReadsBack time) ∧
      Codec.read .json (.record [("note", .null), ("timestamp", .text "1970-01-01T00:00:00Z"),
        ("event_type", .text "Started"), ("discoverer_id", .text "east")]) = some event := by
  intro event
  have timely : ∀ time ∈ timestamps event, ReadsBack time :=
    List.forall_mem_singleton.mpr
      (Time.Timestamp.readsBack_iff.mpr ⟨by decide, by decide, by decide⟩)
  have text : "1970-01-01T00:00:00Z" = Time.Timestamp.epoch.toText := by decide
  have annotated : Extended (Shaped.shape Progress) (Codec.write event)
      (.record ([("note", .null)] ++ [("timestamp", .text Time.Timestamp.epoch.toText),
        ("event_type", .text "Started"), ("discoverer_id", .text "east")])) :=
    .annotated (by decide) (by decide)
  obtain ⟨-, -, -, -, -, -, -, progress⟩ := models_round_trip
  rw [text]
  exact ⟨timely, progress.readsBack event timely _ annotated⟩

end FieldSurvey.Model
