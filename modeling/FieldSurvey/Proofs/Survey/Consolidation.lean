import FieldSurvey.Proofs.Model.Registration
import FieldSurvey.Proofs.Survey.Inquiring

/-!
# What the answers of a run come to

The servers of a run may tell of one application several times, and of one endpoint as well.  The
run keeps one registration for each application, in the order in which the applications were first
told of; it is the sum of all that was told of it.  So the order of the servers decides which
values are kept where they contradict each other, but neither which applications and endpoints are
known nor under which urls and addresses.
-/

namespace FieldSurvey

namespace Model.Registration

variable {registration : Registration} {registrations others occurrences : List Registration}

/-- Whether registrations are one for each application that occurs, in the order in which the
applications first occur, and each the sum of its occurrences. -/
structure Consolidate (registrations occurrences : List Registration) : Prop where
  applicationIds : registrations.map applicationId =
    (occurrences.map applicationId).eraseDups
  sums : ∀ registration ∈ registrations, registration.Sums
    (occurrences.filter fun occurrence => occurrence.applicationId = registration.applicationId)

theorem consolidate_collect (distinct : ∀ occurrence ∈ occurrences, occurrence.Distinct) :
    Consolidate (Survey.collect [] occurrences) occurrences := by
  have placed : Survey.collect [] occurrences =
      Keyed.placeAll applicationId merge occurrences [] := by
    simp only [Survey.collect, mergeInto_eq]
    rfl
  rw [placed]
  constructor
  case applicationIds =>
    exact Keyed.map_placeAll fun first other _ => first.applicationId_merge other
  case sums =>
    intro registration member
    apply sums_of_combined?
    · intro occurrence listed
      exact distinct occurrence (List.mem_of_mem_filter listed)
    · exact Keyed.combined?_of_mem_placeAll
        (fun first other _ => first.applicationId_merge other) member

/-! ## The order of the occurrences -/

/-- The ids of an application and of one of its endpoints, for each of them. -/
def idPairs (registrations : List Registration) : List (String × String) :=
  (Survey.endpointPairs registrations).map fun pair => (pair.1.applicationId, pair.2.id)

/-- Whether registrations agree with others in the applications and endpoints that are known, and
in the sets of each application. -/
structure Agree (registrations others : List Registration) : Prop where
  applicationIds : ∀ id, id ∈ registrations.map applicationId ↔ id ∈ others.map applicationId
  idPairs : ∀ ids, ids ∈ idPairs registrations ↔ ids ∈ idPairs others
  sets : ∀ registration ∈ registrations, ∀ other ∈ others,
    registration.applicationId = other.applicationId →
      registration.application.discoveryUrls = other.application.discoveryUrls ∧
        registration.application.hostAddresses = other.application.hostAddresses ∧
        registration.application.capabilities = other.application.capabilities

theorem mem_idPairs {ids : String × String} : ids ∈ idPairs registrations ↔
    ∃ registration ∈ registrations, registration.applicationId = ids.1 ∧
      ids.2 ∈ registration.endpoints.map Endpoint.id := by
  simp only [idPairs, Survey.endpointPairs, List.map_flatMap, List.mem_flatMap, List.map_map,
    List.mem_map, Function.comp_apply, Prod.ext_iff]
  refine exists_congr fun registration => and_congr_right fun _ => ?_
  constructor
  · rintro ⟨endpoint, listed, application, same⟩
    exact ⟨application, endpoint, listed, same⟩
  · rintro ⟨application, endpoint, listed, same⟩
    exact ⟨endpoint, listed, application, same⟩

theorem Consolidate.mem_applicationIds (consolidate : Consolidate registrations occurrences)
    {id : String} :
    id ∈ registrations.map applicationId ↔ id ∈ occurrences.map applicationId := by
  rw [consolidate.applicationIds, List.mem_eraseDups]

/-- An endpoint is known if it occurs. -/
theorem Consolidate.mem_idPairs (consolidate : Consolidate registrations occurrences)
    {ids : String × String} : ids ∈ idPairs registrations ↔
      ∃ occurrence ∈ occurrences, occurrence.applicationId = ids.1 ∧
        ids.2 ∈ occurrence.endpoints.map Endpoint.id := by
  have inSum : ∀ registration ∈ registrations, registration.applicationId = ids.1 →
      (ids.2 ∈ registration.endpoints.map Endpoint.id ↔
        ∃ occurrence ∈ occurrences, occurrence.applicationId = ids.1 ∧
          ids.2 ∈ occurrence.endpoints.map Endpoint.id) := by
    intro registration member same
    rw [(consolidate.sums registration member).endpointIds, List.mem_eraseDups, List.map_flatMap,
      List.mem_flatMap]
    simp only [List.mem_filter, decide_eq_true_eq, same, and_assoc]
  rw [Registration.mem_idPairs]
  constructor
  · rintro ⟨registration, member, same, listed⟩
    exact (inSum registration member same).mp listed
  · rintro ⟨occurrence, occurs, same, listed⟩
    have known := consolidate.mem_applicationIds.mpr (List.mem_map_of_mem occurs)
    obtain ⟨registration, member, equal⟩ := List.mem_map.mp known
    have isFirst := equal.trans same
    exact ⟨registration, member, isFirst,
      (inSum registration member isFirst).mpr ⟨occurrence, occurs, same, listed⟩⟩

/-- Sets that collect what occurs do not depend on the order in which it occurs. -/
theorem set_eq_of_perm {set : Application → Text.TextSet} {other : Registration}
    {otherOccurrences : List Registration} (perm : occurrences.Perm otherOccurrences)
    (first : ∀ text, text ∈ (set registration.application).items ↔
      ∃ occurrence ∈ occurrences, text ∈ (set occurrence.application).items)
    (second : ∀ text, text ∈ (set other.application).items ↔
      ∃ occurrence ∈ otherOccurrences, text ∈ (set occurrence.application).items) :
    set registration.application = set other.application := by
  apply Text.TextSet.eq_of_mem_iff
  intro text
  rw [first, second]
  simp only [perm.mem_iff]

/-- What registrations come to depends on the order of their occurrences in the values that
contradict each other only. -/
theorem Consolidate.agree {otherOccurrences : List Registration}
    (consolidate : Consolidate registrations occurrences)
    (otherwise : Consolidate others otherOccurrences)
    (perm : occurrences.Perm otherOccurrences) : Agree registrations others := by
  constructor
  case applicationIds =>
    intro id
    rw [consolidate.mem_applicationIds, otherwise.mem_applicationIds, (perm.map _).mem_iff]
  case idPairs =>
    intro ids
    rw [consolidate.mem_idPairs, otherwise.mem_idPairs]
    simp only [perm.mem_iff]
  case sets =>
    intro registration member other otherMember same
    have first := consolidate.sums registration member
    have second := otherwise.sums other otherMember
    rw [← same] at second
    have alike := perm.filter fun occurrence =>
      decide (occurrence.applicationId = registration.applicationId)
    exact ⟨set_eq_of_perm alike first.discoveryUrls second.discoveryUrls,
      set_eq_of_perm alike first.hostAddresses second.hostAddresses,
      set_eq_of_perm alike first.capabilities second.capabilities⟩

end Model.Registration

namespace Survey

open Model (DiscoveredEndpoint Origin Registration)
open Model.Registration (Agree Consolidate)
open Probe (Outcome)

variable {survey : Survey} {inquiries others : List Inquiry}

/-- All registrations that the answers to inquiries tell of, one after the other. -/
def occurrencesIn (survey : Survey) (inquiries : List Inquiry) : List Registration :=
  (inquiries.filterMap Inquiry.answered?).flatMap fun answer =>
    survey.registrationsAt answer.1 answer.2

theorem gatheredIn_eq (survey : Survey) (inquiries : List Inquiry) :
    survey.gatheredIn [] inquiries = collect [] (survey.occurrencesIn inquiries) := by
  rw [gatheredIn, gatheredFrom, collect, occurrencesIn, List.foldl_flatMap]
  rfl

theorem distinct_of_ofDiscovered? {endpoint : DiscoveredEndpoint} {origin : Origin}
    {registration : Registration}
    (discovered : Registration.ofDiscovered? endpoint origin = some registration) :
    registration.Distinct := by
  obtain ⟨id, -, rfl⟩ := Option.map_eq_some_iff.mp discovered
  exact List.nodup_singleton _

theorem distinct_occurrencesIn (survey : Survey) (inquiries : List Inquiry) :
    ∀ occurrence ∈ survey.occurrencesIn inquiries, occurrence.Distinct := by
  intro occurrence occurs
  obtain ⟨answer, -, told⟩ := List.mem_flatMap.mp occurs
  obtain ⟨endpoint, -, discovered⟩ := List.mem_filterMap.mp told
  exact distinct_of_ofDiscovered? discovered

theorem consolidate_gatheredIn (survey : Survey) (inquiries : List Inquiry) :
    Consolidate (survey.gatheredIn [] inquiries) (survey.occurrencesIn inquiries) := by
  rw [gatheredIn_eq]
  exact Registration.consolidate_collect (survey.distinct_occurrencesIn inquiries)

theorem perm_occurrencesIn (survey : Survey) (perm : inquiries.Perm others) :
    (survey.occurrencesIn inquiries).Perm (survey.occurrencesIn others) :=
  (perm.filterMap _).flatMap_right _

/-- Whether a run that asks targets has come to the sum of what they have told of. -/
structure Tells (survey : Survey) (before : Journal) (targets : List Target)
    (outcome : Outcome (List Registration)) (after : Journal) (inquiries : List Inquiry) :
    Prop where
  /-- the targets were asked one after the other -/
  asked : (inquiries.map fun inquiry => (inquiry.target, inquiry.locales)) =
    targets.map fun target => (target, survey.plan.config.wantedLocales)
  journal : after = { before with inquiries := before.inquiries ++ inquiries }
  completed : outcome = .completed (survey.gatheredIn [] inquiries)
  consolidate : Consolidate (survey.gatheredIn [] inquiries) (survey.occurrencesIn inquiries)

/-- Whatever the servers of a run answer, the run comes to one registration for each application
that they tell of, in the order in which they are first told of, with the fields of the first
occurrence, the sets of all of them, and every endpoint as it occurs last.  Which applications,
endpoints and members of sets these are does not depend on the order of the servers.  Merging is
associative where no endpoint is listed twice, and lists none twice then. -/
theorem answers_consolidated (survey : Survey) :
    (∀ (network : Network) (targets : List Target) (before : Journal),
      (survey.askServers targets).Ensures network.undisturbed
        (fun outcome after => ∃ inquiries, survey.Tells before targets outcome after inquiries)
        before) ∧
    (∀ inquiries others : List Inquiry, inquiries.Perm others →
      Agree (survey.gatheredIn [] inquiries) (survey.gatheredIn [] others)) ∧
    (∀ a b c : Registration, b.Distinct → (a.merge b).merge c = a.merge (b.merge c)) ∧
    ∀ a b : Registration, a.Distinct → (a.merge b).Distinct := by
  refine ⟨?_, ?_, fun a b c distinct => a.merge_assoc distinct c,
    fun a b distinct => distinct.merge b⟩
  · intro network targets before
    apply (undisturbed_askServers survey targets).imp
    rintro outcome after ⟨inquiries, asked, completed, journal⟩
    exact ⟨inquiries, asked, journal, completed, survey.consolidate_gatheredIn inquiries⟩
  · intro inquiries others perm
    exact (survey.consolidate_gatheredIn inquiries).agree (survey.consolidate_gatheredIn others)
      (survey.perm_occurrencesIn perm)

section Pump

/-- A server that tells of a pump under some name. -/
def inquiryOf (host : Address.V4) (name : String) : Inquiry where
  target := { url := { scheme := "opc.tcp" }, address := { ip := .v4 host, port := 4840 } }
  locales := []
  answer := .completed (.ok
    [{ accessibleUrl := "opc.tcp://pump"
       description :=
        { endpointUrl := "opc.tcp://pump"
          server := { applicationUri := "urn:pump", applicationName := some name }
          securityMode := .none } }])

/-- Two servers that tell of one pump under different names. -/
def pumpInquiries : List Inquiry :=
  [inquiryOf (.ofOctets 10 0 0 1) "Pump", inquiryOf (.ofOctets 10 0 0 2) "Pumpe"]

def pumpSurvey : Survey where
  discoverer := {}
  plan := { request := {}, mode := .off, config := {} }
  isContainer := false
  reportInterval := 0

/-- The pump with endpoints of some ids. -/
def pumpWith (ids : List String) : Registration where
  application := { applicationId := "pump", applicationUri := "urn:pump" }
  endpoints := ids.map fun id =>
    { id, applicationId := "pump", endpointUrl := "opc.tcp://pump" }

/-- The name of the pump depends on the order of the servers, its addresses do not; and of three
registrations of the pump the first two may be merged first or the last two. -/
theorem pump_answers_consolidated :
    pumpInquiries.Perm pumpInquiries.reverse ∧
      ((pumpSurvey.gatheredIn [] pumpInquiries).map fun registration =>
        (registration.application.applicationName,
          registration.application.hostAddresses.items)) =
        [(some "Pump", ["10.0.0.1", "10.0.0.2"])] ∧
      ((pumpSurvey.gatheredIn [] pumpInquiries.reverse).map fun registration =>
        registration.application.applicationName) = [some "Pumpe"] ∧
      Agree (pumpSurvey.gatheredIn [] pumpInquiries)
        (pumpSurvey.gatheredIn [] pumpInquiries.reverse) ∧
      (pumpWith ["b", "c"]).Distinct ∧
      ((pumpWith ["a", "b"]).merge (pumpWith ["b", "c"])).merge (pumpWith ["c", "a"]) =
        (pumpWith ["a", "b"]).merge ((pumpWith ["b", "c"]).merge (pumpWith ["c", "a"])) ∧
      ((pumpWith ["b", "c"]).merge (pumpWith ["c", "a"])).Distinct := by
  have perm : pumpInquiries.Perm pumpInquiries.reverse := (List.reverse_perm _).symm
  have distinct : (pumpWith ["b", "c"]).Distinct := by
    unfold Registration.Distinct
    decide
  obtain ⟨-, agree, assoc, keeps⟩ := answers_consolidated pumpSurvey
  exact ⟨perm, by decide +kernel, by decide +kernel, agree _ _ perm, distinct,
    assoc _ _ _ distinct, keeps _ _ distinct⟩

end Pump

end Survey

end FieldSurvey
