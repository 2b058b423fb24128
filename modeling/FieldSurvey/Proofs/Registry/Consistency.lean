import FieldSurvey.Proofs.Registry.Sparing

/-!
# Consistent registries

Whatever runs make of an empty registry, failing or not, stays consistent: every endpoint is of
a stored application of its own discoverer, everything is either found or else lost since some
time, and everything stands under the id that is derived from what it says.  A run takes over
the site of an application and the url of an endpoint from what it has seen.  The texts from
which ids are derived tell them, so that the id stays the one under which the entity stands.
-/

namespace FieldSurvey.Registry

open Model (Application Endpoint Visibility)
open Time (Timestamp)

/-! ## Texts and digests -/

/-- The text from which the id of an application is derived on behalf of its discoverer. -/
def applicationText (application : Application) : String :=
  Identity.applicationSource
    (some (Identity.siteOrGatewayId application.siteId (application.discovererId.getD "")))
    application.applicationUri application.applicationType

/-- No two texts from which the ids of what was seen are derived share a digest. -/
structure Unmistakable (seen : List (Application × Endpoint)) : Prop where
  applications : ∀ first ∈ seen, ∀ second ∈ seen,
    Identity.digestText (applicationText first.1) =
      Identity.digestText (applicationText second.1) →
    applicationText first.1 = applicationText second.1
  endpoints : CollisionFree seen

theorem Unmistakable.of_subset {seen more : List (Application × Endpoint)}
    (unmistakable : Unmistakable more) (subset : seen ⊆ more) : Unmistakable seen where
  applications first firstMember second secondMember :=
    unmistakable.applications first (subset firstMember) second (subset secondMember)
  endpoints first firstMember second secondMember :=
    unmistakable.endpoints first (subset firstMember) second (subset secondMember)

/-! ## Applications that say what their id is derived from -/

/-- The text of an application is the one that its id is derived from. -/
theorem applicationText_of_owned {owner : String} {application : Application}
    (owned : application.discovererId = some owner) :
    applicationText application = Identity.applicationSource
      (some (Identity.siteOrGatewayId application.siteId owner)) application.applicationUri
      application.applicationType := by
  rw [applicationText, owned, Option.getD_some]

theorem digestText_of_derivedId? {firstOwner secondOwner id : String}
    {first second : Application} (firstOwned : first.discovererId = some firstOwner)
    (secondOwned : second.discovererId = some secondOwner)
    (firstDerived : derivedId? firstOwner first = some id)
    (secondDerived : derivedId? secondOwner second = some id) :
    Identity.digestText (applicationText first) =
      Identity.digestText (applicationText second) := by
  rw [applicationText_of_owned firstOwned, applicationText_of_owned secondOwned]
  exact Identity.digestText_of_applicationId? firstDerived secondDerived

/-- The application of a sighting has the id that is derived from what it says. -/
theorem derivedId?_of_mem_sightings {discovererId : String} {results : List Model.ResultRecord}
    {sighting : Application × Endpoint} (member : sighting ∈ sightings discovererId results) :
    derivedId? discovererId sighting.1 = some sighting.1.applicationId := by
  obtain ⟨result, -, told⟩ := List.mem_filterMap.mp member
  obtain ⟨_, _, _, -, -, derived, rfl⟩ := sighting?_eq_some_iff.mp told
  exact derived

/-! ## What holds of every stored entity -/

/-- An entity that is found, or else lost since some time. -/
structure Placed (visibility : Visibility) (notSeenSince : Option Timestamp) : Prop where
  known : visibility = .found ∨ visibility = .lost
  dated : visibility = .lost ↔ notSeenSince.isSome

theorem placed_found : Placed .found none :=
  ⟨Or.inl rfl, by simp⟩

theorem placed_lost (since : Timestamp) : Placed .lost (some since) :=
  ⟨Or.inr rfl, by simp⟩

/-- An application that stands under the id that is derived from what it says, as some run has
seen it. -/
structure SoundApplication (seen : List (Application × Endpoint)) (id : String)
    (application : Application) : Prop where
  placed : Placed application.visibility application.notSeenSince
  derived : ∃ owner, application.discovererId = some owner ∧
    derivedId? owner application = some id
  sighted : ∃ sighting ∈ seen, applicationText sighting.1 = applicationText application

/-- An endpoint that stands under the id that is derived from what it says, as some run has seen
it. -/
structure SoundEndpoint (seen : List (Application × Endpoint)) (id : String)
    (endpoint : Endpoint) : Prop where
  placed : Placed endpoint.visibility endpoint.notSeenSince
  derived : Identity.endpointId endpoint.endpointUrl endpoint.applicationId
    endpoint.securityMode endpoint.securityPolicy = id
  sighted : ∃ sighting ∈ seen, sighting.2.applicationId = endpoint.applicationId ∧
    endpointText sighting.2 = endpointText endpoint

section Sound

variable {seen more : List (Application × Endpoint)} {id : String}

theorem SoundApplication.mono {application : Application}
    (sound : SoundApplication seen id application) (subset : seen ⊆ more) :
    SoundApplication more id application :=
  { sound with
    sighted :=
      have ⟨sighting, member, same⟩ := sound.sighted
      ⟨sighting, subset member, same⟩ }

theorem SoundEndpoint.mono {endpoint : Endpoint} (sound : SoundEndpoint seen id endpoint)
    (subset : seen ⊆ more) : SoundEndpoint more id endpoint :=
  { sound with
    sighted :=
      have ⟨sighting, member, same⟩ := sound.sighted
      ⟨sighting, subset member, same⟩ }

end Sound

/-- A property of entities that a run's treatment of them respects. -/
structure Treatment.Respects {α : Type} [Entity α] (treatment : Treatment α)
    (seen? : String → Option α) (Holds : String → α → Prop) : Prop where
  stamped : ∀ id entity generation, Holds id entity →
    Holds id (Entity.inGeneration (some generation) entity)
  added : ∀ id seen, seen? id = some seen → Holds id (treatment.add seen)
  revised : ∀ id seen former entity, seen? id = some seen →
    Entity.discovererId former = some treatment.discovererId → Holds id former →
    treatment.revise seen former = some entity → Holds id entity
  lost : ∀ id former entity, Holds id former → treatment.lose former = some entity →
    Holds id entity

section Treatment

variable {α : Type} [Entity α] {treatment : Treatment α} {seen? : String → Option α}
  {Holds : String → α → Prop}

/-- What an outlook has written under an id has a property that the treatment respects. -/
theorem Treatment.Respects.outlook (respects : treatment.Respects seen? Holds) {id : String}
    {present : Option α} {entity : α} (former : ∀ stored, present = some stored → Holds id stored)
    (intended : treatment.outlook seen? id present = some entity) : Holds id entity := by
  cases sighted : seen? id with
  | none =>
      cases present with
      | none =>
          rw [Treatment.outlook_absent sighted] at intended
          contradiction
      | some stored =>
          by_cases owned : Entity.discovererId stored = some treatment.discovererId
          · rw [Treatment.outlook_missed sighted owned] at intended
            exact respects.lost id stored entity (former stored rfl) intended
          · rw [Treatment.outlook_foreign owned] at intended
            contradiction
  | some seen =>
      cases present with
      | none =>
          rw [Treatment.outlook_free sighted] at intended
          rw [← Option.some.inj intended]
          exact respects.added id seen sighted
      | some stored =>
          by_cases owned : Entity.discovererId stored = some treatment.discovererId
          · rw [Treatment.outlook_owned sighted owned] at intended
            exact respects.revised id seen stored entity sighted owned (former stored rfl) intended
          · rw [Treatment.outlook_foreign owned] at intended
            contradiction

/-- What a treatment respects holds of all entities of a store as it did before, whichever of
them were treated. -/
theorem Treatment.Respects.treated (respects : treatment.Respects seen? Holds)
    {ids : List String} {before after : UnreliableStore α} {failures : Nat}
    (treated : Treated (treatment.outlook seen?) ids before after failures)
    (holds : ∀ id entity, before.store.get? id = some entity → Holds id entity) :
    ∀ id entity, after.store.get? id = some entity → Holds id entity := by
  intro id stored stands
  have here := treated.becomes id
  split at here
  · exact holds id stored (here.symm.trans stands)
  · rename_i entity intended
    obtain ⟨generation, wrote⟩ := here
    unfold Intent.within at intended
    split at intended
    · rw [← Option.some.inj (wrote.symm.trans stands)]
      exact respects.stamped id entity generation (respects.outlook (holds id) intended)
    · contradiction

end Treatment

section Errand

variable {errand : Errand} {seen : List (Application × Endpoint)}

theorem exists_sighting_of_firstApplication {id : String} {application : Application}
    (sight : firstApplication seen id = some application) :
    ∃ sighting ∈ seen, sighting.1 = application ∧ application.applicationId = id := by
  obtain ⟨sighting, member, same⟩ := List.mem_map.mp (List.mem_of_find?_eq_some sight)
  exact ⟨sighting, member, same, by simpa using List.find?_some sight⟩

/-- An application takes over the site from what was seen of it, which is the one that its id
tells. -/
theorem derivedId?_rediscovered {owner id : String} {seen former : Application}
    (seenOwned : seen.discovererId = some owner) (formerOwned : former.discovererId = some owner)
    (same : applicationText seen = applicationText former)
    (derived : derivedId? owner former = some id) :
    derivedId? owner (former.rediscovered seen).found = some id ∧
      applicationText (former.rediscovered seen).found = applicationText former := by
  have sites : Identity.siteOrGatewayId seen.siteId owner =
      Identity.siteOrGatewayId former.siteId owner := by
    unfold applicationText at same
    rw [seenOwned, formerOwned] at same
    exact (Identity.applicationSource_inj same).1
  constructor
  · rw [← derived]
    simp only [derivedId?, Application.rediscovered, Application.found, sites]
  · simp only [applicationText, Application.rediscovered, Application.found, formerOwned,
      Option.getD_some, sites]

theorem respects_soundApplication (unmistakable : Unmistakable seen)
    (subset : errand.seen ⊆ seen) :
    (applicationTreatment errand.run errand.now).Respects (firstApplication errand.seen)
      (SoundApplication seen) where
  stamped _ _ _ sound := ⟨sound.placed, sound.derived, sound.sighted⟩
  added := by
    intro id seen sight
    obtain ⟨sighting, member, rfl, rfl⟩ := exists_sighting_of_firstApplication sight
    have owned := (discovererId_of_mem_sightings member).1
    have derived := derivedId?_of_mem_sightings member
    exact ⟨placed_found, ⟨_, owned, derived⟩, sighting, subset member, rfl⟩
  revised := by
    intro id seen former entity sight own sound change
    obtain ⟨sighting, member, rfl, rfl⟩ := exists_sighting_of_firstApplication sight
    have owned := (discovererId_of_mem_sightings member).1
    have derived := derivedId?_of_mem_sightings member
    obtain ⟨owner, isOwner, formerDerived⟩ := sound.derived
    obtain ⟨earlier, inSeen, sameText⟩ := sound.sighted
    obtain rfl : errand.run.discovererId = owner := Option.some.inj (own.symm.trans isOwner)
    -- both have the id under which the application stands, so that no digest tells them apart
    have digests := digestText_of_derivedId? owned isOwner derived formerDerived
    rw [← sameText] at digests
    have texts := (unmistakable.applications sighting (subset member) earlier inSeen
      digests).trans sameText
    obtain ⟨revisedDerived, revisedText⟩ :=
      derivedId?_rediscovered owned isOwner texts formerDerived
    obtain ⟨-, rfl⟩ := refreshedApplication_eq_some_iff.mp change
    exact ⟨placed_found, ⟨_, isOwner, revisedDerived⟩, earlier, inSeen,
      sameText.trans revisedText.symm⟩
  lost := by
    intro id former entity sound change
    obtain ⟨-, rfl⟩ := lostApplication_eq_some_iff.mp change
    exact ⟨placed_lost errand.now, sound.derived, sound.sighted⟩

/-- An endpoint takes over the url and the application from what was seen of it, which are those
that its id tells. -/
theorem endpointText_rediscovered {seen former : Endpoint}
    (seenDerived : Identity.IsApplicationId seen.applicationId)
    (formerDerived : Identity.IsApplicationId former.applicationId)
    (same : endpointText seen = endpointText former) :
    endpointText (former.rediscovered seen).found = endpointText former := by
  obtain ⟨urls, ids⟩ := Identity.endpointSource_inj seenDerived formerDerived same
  simp only [endpointText, Identity.endpointSource, Endpoint.rediscovered, Endpoint.found, urls,
    ids]

theorem respects_soundEndpoint (unmistakable : Unmistakable seen)
    (subset : errand.seen ⊆ seen)
    (derivedIds : ∀ sighting ∈ seen, Identity.IsApplicationId sighting.2.applicationId) :
    (endpointTreatment errand.run errand.now).Respects (lastEndpoint errand.seen)
      (SoundEndpoint seen) where
  stamped _ _ _ sound := ⟨sound.placed, sound.derived, sound.sighted⟩
  added := by
    intro id seen sight
    obtain ⟨sighting, member, rfl, rfl⟩ := exists_sighting_of_lastEndpoint sight
    have derived := (derived_of_mem_sightings member).1
    exact ⟨placed_found, derived.symm, sighting, subset member, rfl, rfl⟩
  revised := by
    intro id seen former entity sight own sound change
    obtain ⟨sighting, member, rfl, rfl⟩ := exists_sighting_of_lastEndpoint sight
    have derived := (derived_of_mem_sightings member).1
    obtain ⟨earlier, inSeen, sameApplication, sameText⟩ := sound.sighted
    have digests : Identity.digestText (endpointText sighting.2) =
        Identity.digestText (endpointText earlier.2) := by
      have ids : Identity.endpointMark ++ Identity.digestText (endpointText former) =
          sighting.2.id := sound.derived
      rw [derived, ← sameText] at ids
      exact ((String.append_right_inj _).mp ids).symm
    have texts := (unmistakable.endpoints sighting (subset member) earlier inSeen
      digests).trans sameText
    have revisedText := endpointText_rediscovered (derivedIds sighting (subset member))
      (sameApplication ▸ derivedIds earlier inSeen) texts
    obtain ⟨-, rfl⟩ := refreshedEndpoint_eq_some_iff.mp change
    refine ⟨placed_found, ?_, sighting, subset member, rfl, texts.trans revisedText.symm⟩
    have source : Identity.endpointMark ++
        Identity.digestText (endpointText (former.rediscovered sighting.2).found) =
          Identity.endpointMark ++ Identity.digestText (endpointText former) := by
      rw [revisedText]
    exact source.trans sound.derived
  lost := by
    intro id former entity sound change
    obtain ⟨-, rfl⟩ := lostEndpoint_eq_some_iff.mp change
    exact ⟨placed_lost errand.now, sound.derived, sound.sighted⟩

end Errand

/-! ## Histories -/

/-- A registry all of whose entities are sound. -/
structure Sound (seen : List (Application × Endpoint)) (contents : Contents) : Prop where
  applications : ∀ id application, contents.applications.get? id = some application →
    SoundApplication seen id application
  endpoints : ∀ id endpoint, contents.endpoints.get? id = some endpoint →
    SoundEndpoint seen id endpoint

theorem isApplicationId_of_mem_seenBy {errands : List Errand} {sighting : Application × Endpoint}
    (member : sighting ∈ seenBy errands) :
    Identity.IsApplicationId sighting.2.applicationId := by
  obtain ⟨errand, -, seen⟩ := List.mem_flatMap.mp member
  obtain ⟨-, same, derived⟩ := derived_of_mem_sightings seen
  exact same ▸ derived

theorem Reached.sound {supply : Nat → String} {history : List Errand} {contents : Contents}
    (reached : Reached supply history contents)
    (unmistakable : Unmistakable (seenBy history)) :
    Sound (seenBy history) contents := by
  induction reached with
  | empty =>
      have noApplication : ∀ id, ({} : Store Application).get? id = none := fun _ => rfl
      have noEndpoint : ∀ id, ({} : Store Endpoint).get? id = none := fun _ => rfl
      constructor
      · intro id application present
        rw [noApplication] at present
        contradiction
      · intro id endpoint present
        rw [noEndpoint] at present
        contradiction
  | @run history contents errand faults reached ih =>
      have earlier : seenBy history ⊆ seenBy (history ++ [errand]) := by
        rw [seenBy_concat]
        exact List.subset_append_left _ _
      have latest : errand.seen ⊆ seenBy (history ++ [errand]) := by
        rw [seenBy_concat]
        exact List.subset_append_right _ _
      have before := ih (unmistakable.of_subset earlier)
      have applications := fun id application present =>
        (before.applications id application present).mono earlier
      have endpoints := fun id endpoint present =>
        (before.endpoints id endpoint present).mono earlier
      cases listing : faults.listing? with
      | some fault =>
          rw [(run_of_listing_fault errand contents listing).2]
          exact ⟨applications, endpoints⟩
      | none =>
          have free := unmistakable.endpoints
          have housed := reached.housed free.of_concat
          obtain ⟨summary, after, _, _, _, _, ran, -, weathered⟩ :=
            run_of_listed supply free.separate_last housed.wellKept
              (housed.atHome free.separate) listing
          rw [ran]
          exact
            ⟨(respects_soundApplication unmistakable latest).treated weathered.applications
                applications,
              (respects_soundEndpoint unmistakable latest fun _ =>
                isApplicationId_of_mem_seenBy).treated weathered.endpoints endpoints⟩

/-- A registry whose entities fit together and are what their ids say. -/
structure Consistent (contents : Contents) : Prop where
  /-- an endpoint is of a stored application of the same discoverer -/
  housed : ∀ id endpoint, contents.endpoints.get? id = some endpoint →
    ∃ application, contents.applications.get? endpoint.applicationId = some application ∧
      application.applicationId = endpoint.applicationId ∧
      application.discovererId = endpoint.discovererId
  applications_placed : ∀ id application, contents.applications.get? id = some application →
    Placed application.visibility application.notSeenSince
  endpoints_placed : ∀ id endpoint, contents.endpoints.get? id = some endpoint →
    Placed endpoint.visibility endpoint.notSeenSince
  /-- an application stands under the id that is derived from its site, or else the gateway of
  its discoverer, its type and its uri -/
  applications_derived : ∀ id application, contents.applications.get? id = some application →
    application.applicationId = id ∧
      ∃ owner, application.discovererId = some owner ∧ derivedId? owner application = some id
  /-- an endpoint stands under the id that is derived from its url, application, mode and
  policy -/
  endpoints_derived : ∀ id endpoint, contents.endpoints.get? id = some endpoint →
    endpoint.id = id ∧
      Identity.endpointId endpoint.endpointUrl endpoint.applicationId endpoint.securityMode
        endpoint.securityPolicy = id

/-- Runs keep an empty registry consistent, whatever they have seen, on whose behalf they ran and
whichever of their calls failed. -/
theorem histories_are_consistent (supply : Nat → String) (history : List Errand)
    (contents : Contents) (reached : Reached supply history contents)
    (unmistakable : Unmistakable (seenBy history)) : Consistent contents := by
  have housed := reached.housed unmistakable.endpoints
  have sound := reached.sound unmistakable
  constructor
  · intro id endpoint present
    obtain ⟨owner, owned, home, -⟩ := housed.endpoints id endpoint present
    obtain ⟨application, stored, isOwn⟩ := Store.isOwned_iff.mp home
    exact ⟨application, stored, housed.wellKept.applications.id_of_get? stored,
      isOwn.trans owned.symm⟩
  · exact fun id application present => (sound.applications id application present).placed
  · exact fun id endpoint present => (sound.endpoints id endpoint present).placed
  · exact fun id application present =>
      ⟨housed.wellKept.applications.id_of_get? present,
        (sound.applications id application present).derived⟩
  · exact fun id endpoint present =>
      ⟨housed.wellKept.endpoints.id_of_get? present,
        (sound.endpoints id endpoint present).derived⟩

/-- The small errand at another url. -/
def errandAt (url : String) : Errand :=
  { smallErrand with results := [recordOf url] }

/-- The application of which the records tell. -/
def smallApplication : Application where
  applicationId := ""
  applicationUri := "urn:server"

/-- Such errands see one application and, at urls that differ by case only, endpoints of one
text. -/
theorem texts_of_small_sighting {url : String} {sighting : Application × Endpoint}
    (seen : sighting ∈ (errandAt url).seen) :
    ∃ id, derivedId? smallRun.discovererId smallApplication = some id ∧
      sighting.1 = ownedApplication smallRun.discovererId id smallApplication ∧
      endpointText sighting.2 = Identity.endpointSource url id none none := by
  obtain ⟨result, isOnly, told⟩ := List.mem_filterMap.mp seen
  rw [List.mem_singleton.mp isOnly] at told
  obtain ⟨_, _, id, application, endpoint, derived, rfl⟩ := sighting?_eq_some_iff.mp told
  obtain rfl := Option.some.inj application
  obtain rfl := Option.some.inj endpoint
  exact ⟨id, derived, rfl, rfl⟩

theorem small_history_is_consistent :
    ∃ contents : Contents,
      Reached toString [errandAt "opc.tcp://a", errandAt "OPC.TCP://A"] contents ∧
      Unmistakable (seenBy [errandAt "opc.tcp://a", errandAt "OPC.TCP://A"]) ∧
      Consistent contents := by
  have reached := Reached.run (errandAt "OPC.TCP://A") ⟨fun _ => none, fun _ => none⟩
    (Reached.run (errandAt "opc.tcp://a") ⟨fun _ => none, fun _ => none⟩
      (Reached.empty : Reached toString [] {}))
  have texts : ∀ sighting ∈ seenBy [errandAt "opc.tcp://a", errandAt "OPC.TCP://A"],
      ∃ id, derivedId? smallRun.discovererId smallApplication = some id ∧
        sighting.1 = ownedApplication smallRun.discovererId id smallApplication ∧
        endpointText sighting.2 = Identity.endpointSource "opc.tcp://a" id none none := by
    intro sighting member
    obtain ⟨errand, inErrands, seen⟩ := List.mem_flatMap.mp member
    have capitals : Text.lowered (Text.trimmed "OPC.TCP://A") =
        Text.lowered (Text.trimmed "opc.tcp://a") := by decide +kernel
    rcases List.mem_pair.mp inErrands with rfl | rfl
    · exact texts_of_small_sighting seen
    · obtain ⟨id, derived, application, endpoint⟩ := texts_of_small_sighting seen
      refine ⟨id, derived, application, endpoint.trans ?_⟩
      rw [Identity.endpointSource, Identity.endpointSource, capitals]
  have same : ∀ first ∈ seenBy [errandAt "opc.tcp://a", errandAt "OPC.TCP://A"],
      ∀ second ∈ seenBy [errandAt "opc.tcp://a", errandAt "OPC.TCP://A"],
        first.1 = second.1 ∧ endpointText first.2 = endpointText second.2 := by
    intro first firstMember second secondMember
    obtain ⟨id, derived, application, endpoint⟩ := texts first firstMember
    obtain ⟨other, alsoDerived, alsoApplication, alsoEndpoint⟩ := texts second secondMember
    obtain rfl : id = other := Option.some.inj (derived.symm.trans alsoDerived)
    exact ⟨application.trans alsoApplication.symm, endpoint.trans alsoEndpoint.symm⟩
  have unmistakable : Unmistakable (seenBy [errandAt "opc.tcp://a", errandAt "OPC.TCP://A"]) := by
    constructor
    · intro first firstMember second secondMember _
      rw [(same first firstMember second secondMember).1]
    · intro first firstMember second secondMember _
      exact (same first firstMember second secondMember).2
  exact ⟨_, reached, unmistakable, histories_are_consistent toString _ _ reached unmistakable⟩

end FieldSurvey.Registry
