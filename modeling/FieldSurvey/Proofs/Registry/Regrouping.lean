import FieldSurvey.Proofs.Registry.Grouping
import FieldSurvey.Proofs.Survey.Gathering

/-!
# Regrouping what a run publishes

A run gathers registrations and publishes a record for every endpoint of them; the reconciling
side groups the records anew, under ids that it derives itself.  The registrations of a run are
of different applications, and each of them and each of its endpoints stands under the id that is
derived from what it says.  So deriving the ids again changes nothing, every record joins the
candidate of the registration that it was made of, and the candidates are the registrations.
-/

namespace FieldSurvey.Registry

open Model (Application DiscoveredEndpoint Endpoint Origin Registration ResultRecord)
open Survey (Target batch endpointPairs records sentinel)
open Time (Timestamp)

/-! ## Registrations under their own ids -/

/-- A registration of a site that its owner would derive again as it stands. -/
structure Registered (owner : String) (site : Option String) (registration : Registration) :
    Prop where
  site : registration.application.siteId = site
  derived : derivedId? owner registration.application =
    some registration.application.applicationId
  owned : registration.application.discovererId = some owner
  visibility : registration.application.visibility = .found
  notSeenSince : registration.application.notSeenSince = none
  endpoints : ∀ endpoint ∈ registration.endpoints,
    ownedEndpoint owner registration.application.applicationId registration.application endpoint =
      endpoint
  endpoints_ne_nil : registration.endpoints ≠ []
  endpoints_nodup : (registration.endpoints.map Endpoint.id).Nodup

theorem Registered.ownedApplication_eq {owner : String} {site : Option String}
    {registration : Registration} (registered : Registered owner site registration) :
    ownedApplication owner registration.application.applicationId registration.application =
      registration.application := by
  rw [ownedApplication, ← registered.owned, ← registered.visibility, ← registered.notSeenSince]

theorem registered_of_ofDiscovered? {endpoint : DiscoveredEndpoint} {origin : Origin}
    {registration : Registration}
    (discovered : Registration.ofDiscovered? endpoint origin = some registration) :
    Registered origin.discovererId origin.siteId registration := by
  unfold Registration.ofDiscovered? at discovered
  obtain ⟨id, derived, rfl⟩ := Option.map_eq_some_iff.mp discovered
  constructor
  · rfl
  · exact derived
  · rfl
  · rfl
  · rfl
  · intro only member
    rw [List.mem_singleton.mp member]
    rfl
  · exact List.cons_ne_nil _ _
  · exact List.nodup_singleton _

/-- Of its application, an endpoint takes over no more than the site. -/
theorem ownedEndpoint_of_site {first second : Application} (same : first.siteId = second.siteId)
    (owner id : String) (endpoint : Endpoint) :
    ownedEndpoint owner id first endpoint = ownedEndpoint owner id second endpoint := by
  rw [ownedEndpoint, ownedEndpoint, same]

theorem putEndpoint_ne_nil (endpoint : Endpoint) (endpoints : List Endpoint) :
    Registration.putEndpoint endpoint endpoints ≠ [] := by
  unfold Registration.putEndpoint
  split
  · exact List.cons_ne_nil _ _
  · split <;> exact List.cons_ne_nil _ _

theorem mem_merge {registration other : Registration} {endpoint : Endpoint}
    (member : endpoint ∈ (registration.merge other).endpoints) :
    endpoint ∈ registration.endpoints ∨ endpoint ∈ other.endpoints := by
  suffices ∀ endpoint ∈ (registration.merge other).endpoints,
      endpoint ∈ registration.endpoints ∨ endpoint ∈ other.endpoints from this endpoint member
  refine List.foldlRecOn (motive := fun endpoints : List Endpoint => ∀ endpoint ∈ endpoints,
    endpoint ∈ registration.endpoints ∨ endpoint ∈ other.endpoints) _ _ ?_ ?_
  · exact fun endpoint old => Or.inl old
  · intro endpoints before added new endpoint member
    rcases mem_putEndpoint member with rfl | old
    · exact Or.inr new
    · exact before endpoint old

theorem Registered.merge {owner : String} {site : Option String}
    {registration other : Registration} (first : Registered owner site registration)
    (second : Registered owner site other)
    (same : registration.application.applicationId = other.application.applicationId) :
    Registered owner site (registration.merge other) where
  site := first.site
  derived := first.derived
  owned := first.owned
  visibility := first.visibility
  notSeenSince := first.notSeenSince
  endpoints := by
    intro endpoint member
    rcases mem_merge member with old | new
    · exact first.endpoints endpoint old
    · have sites := first.site.trans second.site.symm
      have owned := second.endpoints endpoint new
      rw [← same, ← ownedEndpoint_of_site sites] at owned
      exact owned
  endpoints_ne_nil :=
    List.foldlRecOn (motive := fun endpoints : List Endpoint => endpoints ≠ []) _ _
      first.endpoints_ne_nil fun endpoints _ endpoint _ => putEndpoint_ne_nil endpoint endpoints
  endpoints_nodup :=
    List.foldlRecOn
      (motive := fun endpoints : List Endpoint => (endpoints.map Endpoint.id).Nodup) _ _
      first.endpoints_nodup fun _ before endpoint _ => nodup_putEndpoint endpoint before

/-! ## Gathering -/

/-- The ids of the applications of registrations. -/
def applicationIds (registrations : List Registration) : List String :=
  registrations.map (·.application.applicationId)

theorem applicationIds_cons (first : Registration) (rest : List Registration) :
    applicationIds (first :: rest) = first.application.applicationId :: applicationIds rest :=
  rfl

theorem applicationIds_concat (front : List Registration) (last : Registration) :
    applicationIds (front ++ [last]) = applicationIds front ++ [last.application.applicationId] :=
  List.map_append

/-- Registrations of different applications, each under its own id. -/
structure Assorted (owner : String) (site : Option String) (registrations : List Registration) :
    Prop where
  registered : ∀ registration ∈ registrations, Registered owner site registration
  nodup : (applicationIds registrations).Nodup

section Gathering

variable {owner : String} {site : Option String} {registrations : List Registration}
  {registration : Registration}

theorem applicationIds_mergeInto (registration : Registration)
    (registrations : List Registration) :
    applicationIds (registration.mergeInto registrations) =
      if registration.application.applicationId ∈ applicationIds registrations then
        applicationIds registrations
      else applicationIds registrations ++ [registration.application.applicationId] := by
  rw [Registration.mergeInto_eq]
  exact Keyed.map_place fun first other _ => first.applicationId_merge other

theorem registered_of_mem_mergeInto {other : Registration}
    (before : ∀ registration ∈ registrations, Registered owner site registration)
    (new : Registered owner site registration)
    (member : other ∈ registration.mergeInto registrations) : Registered owner site other := by
  induction registrations with
  | nil => exact List.mem_singleton.mp member ▸ new
  | cons first rest ih =>
      have below := fun registration inRest =>
        before registration (List.mem_cons_of_mem first inRest)
      unfold Registration.mergeInto at member
      split at member
      · rename_i same
        rcases List.mem_cons.mp member with rfl | inRest
        · exact (before first List.mem_cons_self).merge new same
        · exact below other inRest
      · rcases List.mem_cons.mp member with rfl | inRest
        · exact before other List.mem_cons_self
        · exact ih below inRest

theorem Assorted.mergeInto (before : Assorted owner site registrations)
    (new : Registered owner site registration) :
    Assorted owner site (registration.mergeInto registrations) where
  registered _ member := registered_of_mem_mergeInto before.registered new member
  nodup := by
    rw [applicationIds_mergeInto]
    split
    · exact before.nodup
    · rename_i fresh
      rw [← List.concat_eq_append]
      exact List.Nodup.concat fresh before.nodup

theorem assorted_gathered (survey : Survey) (answers : List (Target × List DiscoveredEndpoint)) :
    Assorted survey.discoverer.id survey.discoverer.siteId (survey.gathered answers) := by
  refine List.foldlRecOn (motive := Assorted survey.discoverer.id survey.discoverer.siteId) _ _
    ⟨by simp, List.nodup_nil⟩ ?_
  intro collected before answer _
  refine List.foldlRecOn (motive := Assorted survey.discoverer.id survey.discoverer.siteId) _ _
    before ?_
  intro collected before registration member
  obtain ⟨endpoint, -, discovered⟩ := List.mem_filterMap.mp member
  exact before.mergeInto (registered_of_ofDiscovered? discovered)

end Gathering

/-! ## Placing a registration -/

theorem putEndpoint_of_not_mem {endpoint : Endpoint} {endpoints : List Endpoint}
    (fresh : endpoint.id ∉ endpoints.map Endpoint.id) :
    Registration.putEndpoint endpoint endpoints = endpoints ++ [endpoint] := by
  rw [Registration.putEndpoint_eq]
  exact Keyed.place_of_not_mem fresh

section Placing

variable {application : Application} {endpoint : Endpoint} {groups : List Registration}

theorem placeEndpoint_of_not_mem (fresh : application.applicationId ∉ applicationIds groups) :
    placeEndpoint application endpoint groups =
      groups ++ [⟨application, [endpoint]⟩] := by
  induction groups with
  | nil => rfl
  | cons first rest ih =>
      rw [applicationIds_cons, List.mem_cons, not_or] at fresh
      rw [placeEndpoint, if_neg (Ne.symm fresh.1), ih fresh.2, List.cons_append]

/-- An endpoint of the last application joins the others of that application. -/
theorem placeEndpoint_concat {endpoints : List Endpoint}
    (fresh : application.applicationId ∉ applicationIds groups) :
    placeEndpoint application endpoint (groups ++ [⟨application, endpoints⟩]) =
      groups ++ [⟨application, Registration.putEndpoint endpoint endpoints⟩] := by
  induction groups with
  | nil => exact if_pos rfl
  | cons first rest ih =>
      rw [applicationIds_cons, List.mem_cons, not_or] at fresh
      rw [List.cons_append, placeEndpoint, if_neg (Ne.symm fresh.1), ih fresh.2, List.cons_append]

/-- The endpoints of a new application, placed one after the other, make up one candidate. -/
theorem foldl_placeEndpoint {endpoints : List Endpoint}
    (fresh : application.applicationId ∉ applicationIds groups)
    (nodup : (endpoints.map Endpoint.id).Nodup) (filled : endpoints ≠ []) :
    endpoints.foldl (fun groups endpoint => placeEndpoint application endpoint groups) groups =
      groups ++ [⟨application, endpoints⟩] := by
  induction endpoints using List.reverseRecOn with
  | nil => contradiction
  | append_singleton front last ih =>
      rw [List.foldl_concat]
      by_cases first : front = []
      · rw [first]
        exact placeEndpoint_of_not_mem fresh
      · rw [List.map_append, List.map_cons, List.map_nil, ← List.concat_eq_append,
          List.nodup_concat] at nodup
        rw [ih nodup.2 first, placeEndpoint_concat fresh, putEndpoint_of_not_mem nodup.1]

end Placing

/-- Registrations are the candidates of their endpoints. -/
theorem grouped_endpointPairs {owner : String} {site : Option String}
    {registrations : List Registration} (assorted : Assorted owner site registrations) :
    grouped (endpointPairs registrations) = registrations := by
  induction registrations using List.reverseRecOn with
  | nil => rfl
  | append_singleton front last ih =>
      obtain ⟨registered, nodup⟩ := assorted
      rw [applicationIds_concat, ← List.concat_eq_append, List.nodup_concat] at nodup
      have before : Assorted owner site front :=
        ⟨fun registration member => registered registration (List.mem_append_left _ member),
          nodup.2⟩
      have final := registered last (List.mem_append_right _ List.mem_cons_self)
      have pairs : endpointPairs (front ++ [last]) =
          endpointPairs front ++
            last.endpoints.map fun endpoint => (last.application, endpoint) := by
        simp [endpointPairs]
      have placed := ih before
      unfold grouped at placed ⊢
      rw [pairs, List.foldl_append, placed, List.foldl_map]
      exact foldl_placeEndpoint nodup.1 final.endpoints_nodup final.endpoints_ne_nil

/-! ## The batch -/

/-- A batch with a record for every endpoint of registrations, in their order and numbered from
zero, and one record about the request behind them. -/
structure Numbered (registrations : List Registration) (results : List ResultRecord) : Prop where
  length : results.length = (endpointPairs registrations).length + 1
  endpoints : ∀ index application endpoint,
    (endpointPairs registrations)[index]? = some (application, endpoint) →
      ∃ result : ResultRecord, results[index]? = some result ∧ result.index.toNat = index ∧
        result.application = some application ∧ result.endpoint = some endpoint
  sentinel : ∃ closing, results.getLast? = some closing ∧
    results.filter ResultRecord.isSentinel = [closing] ∧
    closing.index.toNat = (endpointPairs registrations).length

section Batch

variable {owner : String} {site : Option String} {registrations : List Registration}

/-- What a record of a run tells of is as the owner would derive it. -/
theorem sighting?_eq_some {pair : Application × Endpoint} {result : ResultRecord}
    (assorted : Assorted owner site registrations) (member : pair ∈ endpointPairs registrations)
    (application : result.application = some pair.1) (endpoint : result.endpoint = some pair.2) :
    sighting? owner result = some pair := by
  obtain ⟨registration, inList, inRegistration⟩ := List.mem_flatMap.mp member
  obtain ⟨own, inEndpoints, rfl⟩ := List.mem_map.mp inRegistration
  have registered := assorted.registered registration inList
  refine sighting?_eq_some_iff.mpr ⟨_, _, _, application, endpoint, registered.derived, ?_⟩
  rw [registered.ownedApplication_eq, registered.endpoints own inEndpoints]

theorem sightings_records (assorted : Assorted owner site registrations) (now : Timestamp) :
    sightings owner (records now registrations) = endpointPairs registrations := by
  have first : (endpointPairs registrations).zipIdx.filterMap (fun numbered => some numbered.1) =
      endpointPairs registrations := by
    rw [List.filterMap_eq_map', List.zipIdx_map_fst]
  rw [sightings, records, List.filterMap_map]
  refine (List.filterMap_congr ?_).trans first
  rintro ⟨pair, index⟩ member
  exact sighting?_eq_some assorted (List.fst_mem_of_mem_zipIdx member) rfl rfl

theorem exists_pair_of_mem_records {now : Timestamp} {result : ResultRecord}
    (member : result ∈ records now registrations) :
    ∃ pair ∈ endpointPairs registrations,
      result.application = some pair.1 ∧ result.endpoint = some pair.2 := by
  obtain ⟨⟨pair, index⟩, inPairs, rfl⟩ := List.mem_map.mp member
  exact ⟨pair, List.fst_mem_of_mem_zipIdx inPairs, rfl, rfl⟩

theorem isNameless_of_sighting? {result : ResultRecord} {sighting : Application × Endpoint}
    (told : sighting? owner result = some sighting) : isNameless owner result = false := by
  obtain ⟨_, _, _, application, endpoint, derived, -⟩ := sighting?_eq_some_iff.mp told
  simp [isNameless, application, endpoint, derived]

/-- Deriving all ids anew from the batch yields the registrations as they were. -/
theorem ofBatch_batch (assorted : Assorted owner site registrations) (plan : Plan)
    (now : Timestamp) :
    Candidates.ofBatch owner (batch plan now registrations) = { registrations, skipped := 0 } := by
  have seen : sightings owner (batch plan now registrations) = endpointPairs registrations := by
    rw [batch, sightings, List.filterMap_append]
    exact (List.append_nil _).trans (sightings_records assorted now)
  have named : (batch plan now registrations).countP (isNameless owner) = 0 := by
    rw [List.countP_eq_zero]
    intro result member
    rcases List.mem_append.mp member with ofEndpoint | closing
    · obtain ⟨pair, inPairs, application, endpoint⟩ := exists_pair_of_mem_records ofEndpoint
      rw [isNameless_of_sighting? (sighting?_eq_some assorted inPairs application endpoint)]
      exact Bool.false_ne_true
    · rw [List.mem_singleton.mp closing]
      exact Bool.false_ne_true
  rw [ofBatch_eq, seen, named, grouped_endpointPairs assorted]

theorem length_records (now : Timestamp) (registrations : List Registration) :
    (records now registrations).length = (endpointPairs registrations).length := by
  rw [records, List.length_map, List.length_zipIdx]

theorem numbered_batch (plan : Plan) (now : Timestamp)
    (few : (endpointPairs registrations).length < UInt32.size) :
    Numbered registrations (batch plan now registrations) where
  length := by
    rw [batch, List.length_append, length_records, List.length_singleton]
  endpoints := by
    intro index application endpoint pair
    obtain ⟨inside, -⟩ := List.getElem?_eq_some_iff.mp pair
    refine ⟨⟨UInt32.ofNat index, now, some application, some endpoint, none⟩, ?_, ?_, rfl, rfl⟩
    · rw [batch, List.getElem?_append_left (by rwa [length_records]), records, List.getElem?_map,
        List.getElem?_zipIdx, pair, Nat.zero_add]
      rfl
    · exact UInt32.toNat_ofNat_of_lt' (Nat.lt_trans inside few)
  sentinel := by
    refine ⟨sentinel plan now registrations, List.getLast?_concat .., ?_,
      UInt32.toNat_ofNat_of_lt' few⟩
    have none : (records now registrations).filter ResultRecord.isSentinel = [] := by
      rw [List.filter_eq_nil_iff]
      intro result member
      obtain ⟨pair, -, -, endpoint⟩ := exists_pair_of_mem_records member
      rw [ResultRecord.isSentinel, endpoint]
      exact Bool.false_ne_true
    rw [batch, List.filter_append, none]
    rfl

end Batch

/-- A run publishes the batch of what its targets have answered.  The candidates of that batch are
the registrations that the run has gathered, and its records number their endpoints. -/
theorem published_batch_regroups (survey : Survey) :
    survey.run.Follows survey.gatheringMonitor (fun _ _ => True) [] ∧
      ∀ (answers : List (Target × List DiscoveredEndpoint)) (now : Timestamp),
        Candidates.ofBatch survey.discoverer.id
            (batch survey.plan now (survey.gathered answers)) =
          { registrations := survey.gathered answers, skipped := 0 } ∧
        ((endpointPairs (survey.gathered answers)).length < UInt32.size →
          Numbered (survey.gathered answers)
            (batch survey.plan now (survey.gathered answers))) := by
  refine ⟨survey.run_publishes_gathered, ?_⟩
  intro answers now
  constructor
  · exact ofBatch_batch (assorted_gathered survey answers) survey.plan now
  · exact numbered_batch survey.plan now

/-- A survey of a site. -/
def smallSurvey : Survey where
  discoverer := { siteId := some "plant" }
  plan := { request := {}, mode := .off, config := {} }
  isContainer := false
  reportInterval := 0

/-- Two answers of one server, which is reached under two urls. -/
def smallAnswers : List (Target × List DiscoveredEndpoint) :=
  ["opc.tcp://A", "opc.tcp://b"].map fun accessibleUrl =>
    ({ url := { scheme := "opc.tcp" }, address := { ip := .v4 .loopback, port := 4840 } },
      [{ accessibleUrl
         description :=
          { endpointUrl := "opc.tcp://a", server := { applicationUri := "urn:server" }
            securityMode := .none } }])

theorem small_survey_regroups :
    (endpointPairs (smallSurvey.gathered smallAnswers)).length = 2 ∧
      Candidates.ofBatch smallSurvey.discoverer.id
          (batch smallSurvey.plan Timestamp.epoch (smallSurvey.gathered smallAnswers)) =
        { registrations := smallSurvey.gathered smallAnswers, skipped := 0 } ∧
      Numbered (smallSurvey.gathered smallAnswers)
        (batch smallSurvey.plan Timestamp.epoch (smallSurvey.gathered smallAnswers)) := by
  have count : (endpointPairs (smallSurvey.gathered smallAnswers)).length = 2 := by
    decide +kernel
  obtain ⟨-, regroups⟩ := published_batch_regroups smallSurvey
  obtain ⟨candidates, numbered⟩ := regroups smallAnswers Timestamp.epoch
  exact ⟨count, candidates, numbered (by rw [count]; decide)⟩

end FieldSurvey.Registry
