import FieldSurvey.Proofs.Registry.Sparing

/-!
# Visibility as a function of history

Whether an entity is found or lost, and since when it is lost, is told by the runs of its
discoverer: by which of them have seen it.  The runs of others do not matter.  Of an application
the registry also tells in which context it was first stored, and in which one it was last changed.

The histories are those of runs whose calls do not fail: each run advances the registry, in which
every entity meets its fate, by whether the run has seen it and by what stood there before.
-/

namespace FieldSurvey.Registry

open Model (Application Endpoint Visibility)
open Time (Timestamp)

/-! ## Histories -/

/-- The registry that runs make of an empty one, one after the other. -/
def registryAfter (supply : Nat → String) (history : List Errand) : Contents :=
  history.foldl
    (fun contents errand => (errand.program.run (Contents.handler supply) contents).2) {}

theorem registryAfter_concat (supply : Nat → String) (history : List Errand) (errand : Errand) :
    registryAfter supply (history ++ [errand]) =
      (errand.program.run (Contents.handler supply) (registryAfter supply history)).2 :=
  List.foldl_concat ..

/-- No call fails. -/
def FaultPattern.none : FaultPattern :=
  ⟨fun _ => Option.none, fun _ => Option.none⟩

theorem run_faultless {β : Type} (supply : Nat → String) (program : Program Calls β)
    (contents : Contents) :
    (program.run (UnreliableRegistry.handler supply .none) (.of contents)).2.contents =
      (program.run (Contents.handler supply) contents).2 := by
  have narrow := Program.run_part (Contents.handler supply)
    (UnreliableRegistry.handler supply .none) UnreliableRegistry.contents
    (by rintro (request | request) registry <;> rfl)
    (by rintro (request | request) registry <;> rfl) program (.of contents)
  exact (congrArg Prod.snd narrow).symm

theorem reached_registryAfter (supply : Nat → String) (history : List Errand) :
    Reached supply history (registryAfter supply history) := by
  induction history using List.reverseRecOn with
  | nil => exact Reached.empty
  | append_singleton earlier latest ih =>
      rw [registryAfter_concat, ← run_faultless]
      exact Reached.run latest .none ih

/-! ## What a run makes of a history -/

/-- What a run makes of a registry in which every endpoint is of an application of its owner. -/
structure Advances (errand : Errand) (before after : Contents) : Prop where
  atHome : AtHome errand before
  applications : ∀ id, (applicationTreatment errand.run errand.now).Fate
    (firstApplication errand.seen id) (before.applications.get? id) (after.applications.get? id)
  endpoints : ∀ id, (endpointTreatment errand.run errand.now).Fate
    (seenEndpoint errand.run before.applications errand.seen id) (before.endpoints.get? id)
    (after.endpoints.get? id)

theorem advances_registryAfter (supply : Nat → String) {history : List Errand} {errand : Errand}
    (free : CollisionFree (seenBy (history ++ [errand]))) :
    Advances errand (registryAfter supply history)
      (registryAfter supply (history ++ [errand])) := by
  have housed := (reached_registryAfter supply history).housed free.of_concat
  obtain ⟨after, ran, -, applications, endpoints⟩ :=
    run_reconcile supply errand.run errand.now errand.results housed.wellKept free.separate_last
  have isAfter : registryAfter supply (history ++ [errand]) = after := by
    rw [registryAfter_concat]
    exact congrArg Prod.snd ran
  rw [isAfter]
  exact
    { atHome := housed.atHome free.separate
      applications := Treatment.fate_of_becomes applications
      endpoints := Treatment.fate_of_becomes endpoints }

/-! ## What runs show -/

/-- Whether an application is among what a run has seen. -/
def Errand.ShowsApplication (errand : Errand) (id : String) : Prop :=
  ∃ sighting ∈ errand.seen, sighting.1.applicationId = id

/-- Whether an endpoint is among what a run has seen. -/
def Errand.ShowsEndpoint (errand : Errand) (id : String) : Prop :=
  ∃ sighting ∈ errand.seen, sighting.2.id = id

/-- The runs of a discoverer. -/
def runsOf (owner : String) (history : List Errand) : List Errand :=
  history.filter fun errand => errand.run.discovererId = owner

section Runs

variable {owner : String} {errand : Errand}

theorem runsOf_concat_own (history : List Errand) (own : errand.run.discovererId = owner) :
    runsOf owner (history ++ [errand]) = runsOf owner history ++ [errand] := by
  simp [runsOf, own]

theorem runsOf_concat_other (history : List Errand) (other : errand.run.discovererId ≠ owner) :
    runsOf owner (history ++ [errand]) = runsOf owner history := by
  simp [runsOf, other]

end Runs

/-- An element of a list that is longer by one is the new one, or else one of the others. -/
theorem concat_eq_append_cons {α : Type} {front earlier later : List α} {latest one : α}
    (split : front ++ [latest] = earlier ++ one :: later) :
    (earlier = front ∧ one = latest ∧ later = []) ∨
      ∃ rest, later = rest ++ [latest] ∧ front = earlier ++ one :: rest := by
  rcases List.eq_nil_or_concat' later with rfl | ⟨rest, final, rfl⟩
  · obtain ⟨fronts, ends⟩ := List.append_inj' split rfl
    exact Or.inl ⟨fronts.symm, (List.singleton_inj.mp ends).symm, rfl⟩
  · have parts : front ++ [latest] = (earlier ++ one :: rest) ++ [final] := by simp [split]
    obtain ⟨fronts, ends⟩ := List.append_inj' parts rfl
    rw [List.singleton_inj.mp ends]
    exact Or.inr ⟨rest, rfl, fronts⟩

/-- How an entity stands after runs of its discoverer, by which of them have shown it. -/
structure Told (shows : Errand → Prop) (runs : List Errand) (visibility : Visibility)
    (notSeenSince : Option Timestamp) : Prop where
  shown : ∃ errand ∈ runs, shows errand
  found : ∀ earlier latest, runs = earlier ++ [latest] → shows latest →
    visibility = .found ∧ notSeenSince = none
  lost : ∀ earlier latest, runs = earlier ++ [latest] → ¬shows latest → visibility = .lost
  /-- the first run that did not show the entity any more tells since when it is lost -/
  lostSince : ∀ earlier last next later, runs = earlier ++ last :: next :: later → shows last →
    (∀ errand ∈ next :: later, ¬shows errand) → notSeenSince = some next.now

section Told

variable {shows : Errand → Prop} {runs : List Errand} {latest : Errand}
  {visibility : Visibility} {notSeenSince : Option Timestamp}

theorem told_of_shows (shown : shows latest) : Told shows (runs ++ [latest]) .found none where
  shown := ⟨latest, List.mem_append_right _ List.mem_cons_self, shown⟩
  found _ _ _ _ := ⟨rfl, rfl⟩
  lost := by
    intro earlier other split missed
    rcases concat_eq_append_cons split with ⟨-, rfl, -⟩ | ⟨rest, ends, -⟩
    · contradiction
    · simp at ends
  lostSince := by
    intro earlier last next later split _ missed
    rcases concat_eq_append_cons split with ⟨-, -, none⟩ | ⟨rest, ends, -⟩
    · contradiction
    · have member : latest ∈ next :: later := by
        rw [ends]
        exact List.mem_append_right _ List.mem_cons_self
      exact absurd shown (missed latest member)

/-- An entity that is not shown becomes lost, unless it is. -/
theorem Told.missed (told : Told shows runs visibility notSeenSince) (missed : ¬shows latest) :
    Told shows (runs ++ [latest]) .lost
      (if visibility = .lost then notSeenSince else some latest.now) where
  shown := by
    obtain ⟨errand, member, shown⟩ := told.shown
    exact ⟨errand, List.mem_append_left _ member, shown⟩
  found := by
    intro earlier other split shown
    rcases concat_eq_append_cons split with ⟨-, rfl, -⟩ | ⟨rest, ends, -⟩
    · contradiction
    · simp at ends
  lost _ _ _ _ := rfl
  lostSince := by
    intro earlier last next later split shown unshown
    rcases concat_eq_append_cons split with ⟨-, -, none⟩ | ⟨rest, ends, before⟩
    · contradiction
    · cases rest with
      | nil =>
          -- the entity was shown just before
          obtain ⟨rfl, -⟩ := List.cons_eq_cons.mp ends
          rw [(told.found earlier last before shown).1]
          rfl
      | cons first middle =>
          obtain ⟨rfl, rfl⟩ := List.cons_eq_cons.mp ends
          have unshownBefore : ∀ errand ∈ next :: middle, ¬shows errand := by
            intro errand member
            exact unshown errand (List.mem_append_left [latest] member)
          have wasLost : visibility = .lost := by
            obtain ⟨front, final, parts⟩ :=
              (List.eq_nil_or_concat' (next :: middle)).resolve_left (List.cons_ne_nil _ _)
            apply told.lost (earlier ++ last :: front) final
            · rw [before, parts, List.append_assoc, List.cons_append]
            · exact unshownBefore final (by rw [parts]; simp)
          rw [if_pos wasLost]
          exact told.lostSince earlier last next middle before shown unshownBefore

end Told

/-! ## What treatments tell -/

section Treatment

variable {α : Type} [Entity α] [LawfulEntity α] {treatment : Treatment α} {seen? before? : Option α}
  {standing : α → Visibility × Option Timestamp} {stored : α}

/-- A treatment whose outcome tells where an entity stands: what was seen is found, and what was
missed is lost since now, or since earlier. -/
structure Treatment.Tells (treatment : Treatment α) (seen? : Option α)
    (standing : α → Visibility × Option Timestamp) (now : Timestamp) : Prop where
  stamped : ∀ generation entity,
    standing (Entity.inGeneration generation entity) = standing entity
  added : ∀ seen, seen? = some seen →
    Entity.discovererId (treatment.add seen) = some treatment.discovererId ∧
      standing (treatment.add seen) = (.found, none)
  revised : ∀ seen former entity, treatment.revise seen former = some entity →
    Entity.discovererId entity = Entity.discovererId former ∧ standing entity = (.found, none)
  unchanged : ∀ seen former, treatment.revise seen former = none →
    standing former = (.found, none)
  lost : ∀ former entity, treatment.lose former = some entity →
    Entity.discovererId entity = Entity.discovererId former ∧
      (standing former).1 ≠ .lost ∧ standing entity = (.lost, some now)
  stillLost : ∀ former, treatment.lose former = none → (standing former).1 = .lost

/-- What a run makes of an entity is told by whether the run has shown it. -/
theorem Treatment.Tells.told {errand : Errand} {history : List Errand} {owner : String}
    {shows : Errand → Prop} (tells : treatment.Tells seen? standing errand.now)
    (isRun : treatment.discovererId = errand.run.discovererId)
    (hit : ∀ seen, seen? = some seen → shows errand)
    (miss : ∀ former, before? = some former →
      Entity.discovererId former = some errand.run.discovererId → seen? = none → ¬shows errand)
    (before : ∀ former, before? = some former → Entity.discovererId former = some owner →
      Told shows (runsOf owner history) (standing former).1 (standing former).2)
    (fate : treatment.Fate seen? before? (some stored))
    (owned : Entity.discovererId stored = some owner) :
    Told shows (runsOf owner (history ++ [errand])) (standing stored).1 (standing stored).2 := by
  have isOwner : ∀ {entity : α}, Entity.discovererId entity = some treatment.discovererId →
      Entity.discovererId entity = some owner → errand.run.discovererId = owner :=
    fun isOwn isOwned => isRun.symm.trans (Option.some.inj (isOwn.symm.trans isOwned))
  cases fate with
  | added generation =>
      obtain ⟨isOwn, stands⟩ := tells.added _ rfl
      rw [LawfulEntity.discovererId_inGeneration] at owned
      rw [runsOf_concat_own history (isOwner isOwn owned), tells.stamped, stands]
      exact told_of_shows (hit _ rfl)
  | foreign others =>
      have apart : errand.run.discovererId ≠ owner := by
        rintro rfl
        exact others (isRun ▸ owned)
      rw [runsOf_concat_other history apart]
      exact before stored rfl owned
  | unchanged isOwn same =>
      rw [runsOf_concat_own history (isOwner isOwn owned), tells.unchanged _ _ same]
      exact told_of_shows (hit _ rfl)
  | revised generation isOwn change =>
      obtain ⟨kept, stands⟩ := tells.revised _ _ _ change
      rw [LawfulEntity.discovererId_inGeneration, kept] at owned
      rw [runsOf_concat_own history (isOwner isOwn owned), tells.stamped, stands]
      exact told_of_shows (hit _ rfl)
  | stillLost isOwn same =>
      have missed := (before stored rfl owned).missed (miss stored rfl (isRun ▸ isOwn) rfl)
      rw [if_pos (tells.stillLost stored same)] at missed
      rw [runsOf_concat_own history (isOwner isOwn owned), tells.stillLost stored same]
      exact missed
  | @lost former entity generation isOwn change =>
      obtain ⟨kept, wasFound, stands⟩ := tells.lost _ _ change
      rw [LawfulEntity.discovererId_inGeneration, kept] at owned
      have missed := (before former rfl owned).missed (miss former rfl (isRun ▸ isOwn) rfl)
      rw [if_neg wasFound] at missed
      rw [runsOf_concat_own history (isOwner isOwn owned), tells.stamped, stands]
      exact missed

end Treatment

theorem tells_applicationTreatment (errand : Errand) (id : String) :
    (applicationTreatment errand.run errand.now).Tells (firstApplication errand.seen id)
      (fun application => (application.visibility, application.notSeenSince)) errand.now where
  stamped _ _ := rfl
  added := by
    intro seen sight
    have told : firstApplication (sightings errand.run.discovererId errand.results) id =
        some seen := sight
    have isOwn : seen.discovererId = some errand.run.discovererId :=
      discovererId_of_firstApplication told
    exact ⟨isOwn, rfl⟩
  revised := by
    intro seen former entity change
    refine ⟨NaturedEntity.discovererId_of_nature
      (keepsNature_refreshedApplication errand.run seen change), ?_⟩
    obtain ⟨-, rfl⟩ := refreshedApplication_eq_some_iff.mp change
    rfl
  unchanged := by
    intro seen former same
    rw [← refreshedApplication_eq_none_iff.mp same]
    rfl
  lost := by
    intro former entity change
    refine ⟨NaturedEntity.discovererId_of_nature
      (keepsNature_lostApplication errand.run errand.now change), ?_⟩
    obtain ⟨present, rfl⟩ := lostApplication_eq_some_iff.mp change
    exact ⟨by simpa [Model.Application.isLost] using present, rfl⟩
  stillLost := by
    intro former same
    simpa [applicationTreatment, lostApplication, Model.Application.isLost] using same

theorem tells_endpointTreatment (errand : Errand) (applications : Store Application)
    (id : String) :
    (endpointTreatment errand.run errand.now).Tells
      (seenEndpoint errand.run applications errand.seen id)
      (fun endpoint => (endpoint.visibility, endpoint.notSeenSince)) errand.now where
  stamped _ _ := rfl
  added := by
    intro seen sight
    have told : lastEndpoint (sightings errand.run.discovererId errand.results) id = some seen :=
      (Option.filter_eq_some_iff.mp sight).1
    have isOwn : seen.discovererId = some errand.run.discovererId :=
      discovererId_of_lastEndpoint told
    exact ⟨isOwn, rfl⟩
  revised := by
    intro seen former entity change
    refine ⟨NaturedEntity.discovererId_of_nature (keepsNature_refreshedEndpoint seen change), ?_⟩
    obtain ⟨-, rfl⟩ := refreshedEndpoint_eq_some_iff.mp change
    rfl
  unchanged := by
    intro seen former same
    rw [← refreshedEndpoint_eq_none_iff.mp same]
    rfl
  lost := by
    intro former entity change
    refine ⟨NaturedEntity.discovererId_of_nature (keepsNature_lostEndpoint errand.now change), ?_⟩
    obtain ⟨present, rfl⟩ := lostEndpoint_eq_some_iff.mp change
    exact ⟨by simpa [Model.Endpoint.isLost] using present, rfl⟩
  stillLost := by
    intro former same
    simpa [endpointTreatment, lostEndpoint, Model.Endpoint.isLost] using same

/-! ## Histories -/

section History

variable {supply : Nat → String} {history : List Errand} {id owner : String}

theorem told_application (free : CollisionFree (seenBy history)) {application : Application}
    (present : (registryAfter supply history).applications.get? id = some application)
    (owned : application.discovererId = some owner) :
    Told (·.ShowsApplication id) (runsOf owner history) application.visibility
      application.notSeenSince := by
  induction history using List.reverseRecOn generalizing application with
  | nil => cases present
  | append_singleton earlier latest ih =>
      have fate := (advances_registryAfter supply free).applications id
      rw [present] at fate
      apply (tells_applicationTreatment latest id).told rfl _ _ _ fate owned
      · intro seen sight
        by_contra hidden
        rw [firstApplication_eq_none_iff_forall.mpr fun sighting member itsId =>
          hidden ⟨sighting, member, itsId⟩] at sight
        contradiction
      · rintro former _ _ unseen ⟨sighting, member, itsId⟩
        exact firstApplication_eq_none_iff_forall.mp unseen sighting member itsId
      · intro former stood isOwn
        exact ih free.of_concat stood isOwn

theorem told_endpoint (free : CollisionFree (seenBy history)) {endpoint : Endpoint}
    (present : (registryAfter supply history).endpoints.get? id = some endpoint)
    (owned : endpoint.discovererId = some owner) :
    Told (·.ShowsEndpoint id) (runsOf owner history) endpoint.visibility
      endpoint.notSeenSince := by
  induction history using List.reverseRecOn generalizing endpoint with
  | nil => cases present
  | append_singleton earlier latest ih =>
      have advances := advances_registryAfter supply free
      have fate := advances.endpoints id
      rw [present] at fate
      apply (tells_endpointTreatment latest _ id).told rfl _ _ _ fate owned
      · intro seen sight
        obtain ⟨sighting, member, rfl, itsId⟩ :=
          exists_sighting_of_lastEndpoint (Option.filter_eq_some_iff.mp sight).1
        exact ⟨sighting, member, itsId⟩
      · rintro former stood isOwn unseen ⟨sighting, member, itsId⟩
        cases sight : lastEndpoint latest.seen id with
        | none => exact lastEndpoint_eq_none_iff_forall.mp sight sighting member itsId
        | some seen =>
            -- the application of an endpoint of the discoverer is the discoverer's as well
            have home :=
              advances.atHome id seen (Store.isOwned_iff.mpr ⟨former, stood, isOwn⟩) sight
            rw [seenEndpoint, sight, Option.filter_some,
              if_pos (Store.isOpen_of_isOwned home)] at unseen
            contradiction
      · intro former stood isOwn
        exact ih free.of_concat stood isOwn

end History

/-! ## Contexts of applications -/

/-- What a registry holds of an application, but for who changed it last and in which generation
it is. -/
def content (application : Application) : Application :=
  { application with updated := none, generationId := none }

/-- The application of an id after some runs. -/
def applicationAfter (supply : Nat → String) (id : String) (history : List Errand) :
    Option Application :=
  (registryAfter supply history).applications.get? id

/-- Whether a run changes an application that was stored before. -/
def Alters (supply : Nat → String) (id : String) (earlier : List Errand) (errand : Errand) : Prop :=
  ∃ former stored, applicationAfter supply id earlier = some former ∧
    applicationAfter supply id (earlier ++ [errand]) = some stored ∧
    content stored ≠ content former

/-- The contexts in which an application was stored and changed. -/
structure Audited (supply : Nat → String) (id : String) (history : List Errand)
    (application : Application) : Prop where
  /-- some run was the first to store the application, and has left its context -/
  created : ∃ earlier first later, history = earlier ++ first :: later ∧
    applicationAfter supply id earlier = none ∧
    (applicationAfter supply id (earlier ++ [first])).isSome ∧
    application.created = some first.run.context
  /-- so has the last run that changed it -/
  updated : ∀ earlier last later, history = earlier ++ last :: later →
    Alters supply id earlier last →
    (∀ between next rest, later = between ++ next :: rest →
      ¬Alters supply id (earlier ++ last :: between) next) →
    application.updated = some last.run.context
  unaltered : (∀ earlier errand later, history = earlier ++ errand :: later →
    ¬Alters supply id earlier errand) → application.updated = none

section Audit

variable {supply : Nat → String} {history : List Errand} {id : String}

variable (supply id) in
theorem fate_applicationAfter {latest : Errand}
    (free : CollisionFree (seenBy (history ++ [latest]))) :
    (applicationTreatment latest.run latest.now).Fate (firstApplication latest.seen id)
      (applicationAfter supply id history) (applicationAfter supply id (history ++ [latest])) :=
  (advances_registryAfter supply free).applications id

/-- A run leaves a stored application alone, or else changes what it says and leaves its context
with it. -/
theorem same_or_altered {errand : Errand} {seen? : Option Application}
    {former stored : Application}
    (fate : (applicationTreatment errand.run errand.now).Fate seen? (some former) (some stored)) :
    stored = former ∨ content stored ≠ content former ∧ stored.created = former.created ∧
      stored.updated = some errand.run.context := by
  cases fate with
  | foreign others => exact Or.inl rfl
  | unchanged owned same => exact Or.inl rfl
  | stillLost owned same => exact Or.inl rfl
  | @revised seen _ entity generation owned change =>
      obtain ⟨differs, rfl⟩ := refreshedApplication_eq_some_iff.mp change
      refine Or.inr ⟨?_, rfl, rfl⟩
      intro same
      apply differs
      exact congrArg (fun said : Application =>
        { said with updated := former.updated, generationId := former.generationId }) same
  | @lost _ entity generation owned change =>
      obtain ⟨present, rfl⟩ := lostApplication_eq_some_iff.mp change
      refine Or.inr ⟨?_, rfl, rfl⟩
      intro same
      have visible : Visibility.lost = former.visibility :=
        congrArg Model.Application.visibility same
      simp [Model.Application.isLost, ← visible] at present

/-- What is not stored was never stored. -/
theorem applicationAfter_of_absent (free : CollisionFree (seenBy history))
    (absent : applicationAfter supply id history = none) {earlier later : List Errand}
    (split : history = earlier ++ later) : applicationAfter supply id earlier = none := by
  induction history using List.reverseRecOn generalizing later with
  | nil =>
      rw [(List.append_eq_nil_iff.mp split.symm).1]
      exact absent
  | append_singleton front latest ih =>
      have fate := fate_applicationAfter supply id free
      rcases List.eq_nil_or_concat' later with rfl | ⟨middle, final, rfl⟩
      · rw [List.append_nil] at split
        rw [← split]
        exact absent
      · rw [← List.append_assoc] at split
        have before : applicationAfter supply id front = none := by
          rw [absent] at fate
          generalize firstApplication latest.seen id = seen?,
            applicationAfter supply id front = before? at fate ⊢
          cases fate
          rfl
        exact ih free.of_concat before (List.append_inj' split rfl).1

section Step

variable {latest : Errand} {former stored application : Application}

theorem audited_of_added (free : CollisionFree (seenBy history))
    (absent : applicationAfter supply id history = none)
    (present : applicationAfter supply id (history ++ [latest]) = some application)
    (created : application.created = some latest.run.context)
    (updated : application.updated = none) :
    Audited supply id (history ++ [latest]) application where
  created := ⟨history, latest, [], rfl, absent, by rw [present]; rfl, created⟩
  updated := by
    rintro earlier last later split ⟨former, stored, stood, -⟩
    rcases concat_eq_append_cons split with ⟨rfl, -⟩ | ⟨rest, -, before⟩
    · rw [absent] at stood
      contradiction
    · rw [applicationAfter_of_absent free absent before] at stood
      contradiction
  unaltered _ := updated

theorem Audited.same (audited : Audited supply id history former)
    (stood : applicationAfter supply id history = some former)
    (stands : applicationAfter supply id (history ++ [latest]) = some former) :
    Audited supply id (history ++ [latest]) former where
  created := by
    obtain ⟨earlier, first, later, rfl, absent, present, created⟩ := audited.created
    exact ⟨earlier, first, later ++ [latest], by simp, absent, present, created⟩
  updated := by
    intro earlier last later split altered final
    rcases concat_eq_append_cons split with ⟨rfl, rfl, -⟩ | ⟨rest, rfl, before⟩
    · obtain ⟨one, other, isFormer, isStored, differ⟩ := altered
      rw [stood] at isFormer
      rw [stands] at isStored
      cases isFormer
      cases isStored
      contradiction
    · apply audited.updated earlier last rest before altered
      rintro between next after rfl
      exact final between next (after ++ [latest]) (by simp)
  unaltered never := by
    apply audited.unaltered
    rintro earlier errand later rfl
    exact never earlier errand (later ++ [latest]) (by simp)

theorem Audited.altered (audited : Audited supply id history former)
    (alters : Alters supply id history latest) (created : stored.created = former.created)
    (updated : stored.updated = some latest.run.context) :
    Audited supply id (history ++ [latest]) stored where
  created := by
    obtain ⟨earlier, first, later, rfl, absent, present, isCreated⟩ := audited.created
    exact ⟨earlier, first, later ++ [latest], by simp, absent, present, created.trans isCreated⟩
  updated := by
    intro earlier last later split _ final
    rcases concat_eq_append_cons split with ⟨-, rfl, -⟩ | ⟨rest, rfl, rfl⟩
    · exact updated
    · exact absurd alters (final rest latest [] rfl)
  unaltered never := absurd alters (never history latest [] rfl)

end Step

theorem audited_application (free : CollisionFree (seenBy history)) {application : Application}
    (present : applicationAfter supply id history = some application) :
    Audited supply id history application := by
  induction history using List.reverseRecOn generalizing application with
  | nil => cases present
  | append_singleton earlier latest ih =>
      have fate := fate_applicationAfter supply id free
      rw [present] at fate
      cases stood : applicationAfter supply id earlier with
      | none =>
          rw [stood] at fate
          generalize firstApplication latest.seen id = seen? at fate
          cases fate
          exact audited_of_added free.of_concat stood present rfl rfl
      | some former =>
          rw [stood] at fate
          have audited := ih free.of_concat stood
          rcases same_or_altered fate with rfl | ⟨differs, created, updated⟩
          · exact audited.same stood present
          · exact audited.altered ⟨former, application, stood, present, differs⟩ created updated

end Audit

/-- What has become of everything that is stored is told by the history: where it stands by the
runs of its discoverer, and the contexts of an application by the runs that changed it. -/
theorem histories_tell_visibility (supply : Nat → String) (history : List Errand)
    (free : CollisionFree (seenBy history)) :
    (∀ id application owner,
      (registryAfter supply history).applications.get? id = some application →
      application.discovererId = some owner →
      Told (·.ShowsApplication id) (runsOf owner history) application.visibility
          application.notSeenSince ∧
        Audited supply id history application) ∧
    (∀ id endpoint owner,
      (registryAfter supply history).endpoints.get? id = some endpoint →
      endpoint.discovererId = some owner →
      Told (·.ShowsEndpoint id) (runsOf owner history) endpoint.visibility
        endpoint.notSeenSince) := by
  constructor
  · intro id application owner present owned
    exact ⟨told_application free present owned, audited_application free present⟩
  · intro id endpoint owner present owned
    exact told_endpoint free present owned

/-- A run of the small errand's discoverer. -/
def errandAfter (seconds : Int) (results : List Model.ResultRecord) : Errand where
  run := { smallRun with context := ⟨none, ⟨seconds, 0⟩⟩ }
  now := ⟨seconds, 0⟩
  results := results

/-- A server that is seen once and then missed twice. -/
def smallHistory : List Errand :=
  [errandAfter 0 [recordOf "opc.tcp://a"], errandAfter 1 [], errandAfter 2 []]

theorem small_history_tells :
    CollisionFree (seenBy smallHistory) ∧
      ∃ id application,
        (registryAfter toString smallHistory).applications.get? id = some application ∧
        application.visibility = .lost ∧ application.notSeenSince = some ⟨1, 0⟩ ∧
        Audited toString id smallHistory application := by
  have free : CollisionFree (seenBy smallHistory) := by
    intro first firstMember second secondMember _
    have only : seenBy smallHistory = (errandAfter 0 [recordOf "opc.tcp://a"]).seen :=
      List.append_nil _
    rw [only] at firstMember secondMember
    obtain ⟨record, isFirst, firstTold⟩ := List.mem_filterMap.mp firstMember
    obtain ⟨other, isSecond, secondTold⟩ := List.mem_filterMap.mp secondMember
    rw [List.mem_singleton.mp isFirst] at firstTold
    rw [List.mem_singleton.mp isSecond] at secondTold
    rw [Option.some.inj (firstTold.symm.trans secondTold)]
  obtain ⟨applications, -⟩ := histories_tell_visibility toString smallHistory free
  have owners : ((registryAfter toString smallHistory).applications.entries.map
      fun entry => entry.2.discovererId) = [some "gate"] := by
    decide +kernel
  obtain ⟨⟨id, application⟩, only, owned⟩ := List.map_eq_singleton_iff.mp owners
  have present : (registryAfter toString smallHistory).applications.get? id = some application := by
    rw [Store.get?, only, Store.lookup_cons_ite, if_pos rfl]
  obtain ⟨told, audited⟩ := applications id application "gate" present owned
  have unshown : ∀ errand ∈ [errandAfter 1 [], errandAfter 2 []], ¬errand.ShowsApplication id := by
    rintro errand member ⟨sighting, seen, -⟩
    have nothing : errand.seen = [] := by
      rcases List.mem_pair.mp member with rfl | rfl <;> rfl
    rw [nothing] at seen
    exact List.not_mem_nil seen
  have shown : (errandAfter 0 [recordOf "opc.tcp://a"]).ShowsApplication id := by
    obtain ⟨errand, member, shows⟩ := told.shown
    rcases List.mem_cons.mp member with rfl | later
    · exact shows
    · exact absurd shows (unshown errand later)
  exact ⟨free, id, application, present,
    told.lost [_, _] _ rfl (unshown _ (by simp)),
    told.lostSince [] _ _ _ rfl shown unshown, audited⟩

end FieldSurvey.Registry
