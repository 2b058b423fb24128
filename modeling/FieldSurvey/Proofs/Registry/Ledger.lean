import FieldSurvey.Proofs.Registry.Effects

/-!
# The ledger of a reconciliation

What a reconciliation counts, against what its calls have come to when the stores are fickle.
Additions and updates are counted as they are carried out.  An entity that was to become lost
is counted as well if it is gone when it is read again after its update was refused, although
it was never written: the summary exceeds the writes of the stores by exactly these.
-/

namespace FieldSurvey.Registry

open Model (Application Endpoint Registration ResultRecord)
open Time (Timestamp)

/-- What is counted while calls come to something. -/
structure Summary.Records (sum : Effects) (before after : Summary) : Prop where
  added : after.added = before.added + sum.additions
  written : after.updated + after.lost =
    before.updated + before.lost + sum.updates + sum.escapes
  lost : after.lost = before.lost + sum.losses + sum.escapes

/-- Whether a summary counts what was carried out, and besides that the entities that were gone
before they could be written as lost. -/
structure Summary.Balances (summary : Summary) (effects : Effects) : Prop where
  added : summary.added = effects.additions
  written : summary.updated + summary.lost = effects.updates + effects.escapes
  lost : summary.lost = effects.losses + effects.escapes

/-- Whether a summary counts what was carried out and nothing else. -/
structure Summary.Faithful (summary : Summary) (effects : Effects) : Prop where
  added : summary.added = effects.additions
  written : summary.updated + summary.lost = effects.updates
  lost : summary.lost = effects.losses

/-- A summary is faithful if nothing was gone before it could be written as lost, and only
then. -/
theorem Summary.Balances.faithful_iff {summary : Summary} {effects : Effects}
    (balances : summary.Balances effects) : summary.Faithful effects ↔ effects.escapes = 0 := by
  constructor
  · intro faithful
    have counted := balances.lost
    rw [faithful.lost] at counted
    omega
  · intro none
    refine ⟨balances.added, ?_, ?_⟩
    · rw [balances.written, none, Nat.add_zero]
    · rw [balances.lost, none, Nat.add_zero]

theorem Summary.Balances.plus {before after : Summary} {effects sum : Effects}
    (balances : before.Balances effects) (records : Records sum before after) :
    after.Balances (effects + sum) where
  added := by rw [records.added, balances.added, Effects.additions_add]
  written := by
    have counted := records.written
    rw [balances.written] at counted
    simp only [Effects.updates_add, Effects.escapes_add]
    omega
  lost := by
    have counted := records.lost
    rw [balances.lost] at counted
    simp only [Effects.losses_add, Effects.escapes_add]
    omega

/-! ## What a reconciliation keeps -/

/-- A registry from which a reconciliation goes on, with what it has counted so far. -/
structure Balanced (start : Contents) (registry : UnreliableRegistry) (summary : Summary) :
    Prop where
  wellKept : registry.contents.WellKept
  balances : summary.Balances registry.effects
  writes : registry.writes = (UnreliableRegistry.of start).writes +
    registry.effects.additions + registry.effects.updates

/-- A registry from which a reconciliation goes on before it makes anything lost. -/
structure Opening (start : Contents) (registry : UnreliableRegistry) (summary : Summary) : Prop
    extends Balanced start registry summary where
  applications : lastRefusedLoss? registry.applications.calls = none
  endpoints : lastRefusedLoss? registry.endpoints.calls = none

section Steps

variable {start : Contents} {before after : UnreliableRegistry} {summary counted : Summary}
  {left : Option String} {sum : Effects}

theorem Balanced.plus (balanced : Balanced start before summary)
    (wellKept : after.contents.WellKept) (effects : after.effects = before.effects + sum)
    (writes : after.writes = before.writes + sum.additions + sum.updates)
    (records : summary.Records sum counted) : Balanced start after counted where
  wellKept := wellKept
  balances := effects ▸ balanced.balances.plus records
  writes := by
    rw [writes, balanced.writes, effects]
    simp only [Effects.additions_add, Effects.updates_add]
    omega

theorem Balanced.application (balanced : Balanced start before summary)
    (booked : Booked before.applications after.applications left sum)
    (same : after.endpoints = before.endpoints) (records : summary.Records sum counted) :
    Balanced start after counted := by
  refine balanced.plus ⟨booked.wellKept, ?_⟩ ?_ ?_ records
  · rw [UnreliableRegistry.contents, same]
    exact balanced.wellKept.endpoints
  · rw [UnreliableRegistry.effects, booked.effects, same, Effects.add_right_comm,
      UnreliableRegistry.effects]
  · rw [UnreliableRegistry.writes, booked.writes, same, UnreliableRegistry.writes]
    omega

theorem Balanced.endpoint (balanced : Balanced start before summary)
    (booked : Booked before.endpoints after.endpoints left sum)
    (same : after.applications = before.applications) (records : summary.Records sum counted) :
    Balanced start after counted := by
  refine balanced.plus ⟨?_, booked.wellKept⟩ ?_ ?_ records
  · rw [UnreliableRegistry.contents, same]
    exact balanced.wellKept.applications
  · rw [UnreliableRegistry.effects, booked.effects, same, ← Effects.add_assoc,
      UnreliableRegistry.effects]
  · rw [UnreliableRegistry.writes, booked.writes, same, UnreliableRegistry.writes]
    omega

/-- A series of calls of the application store by which nothing was to be written as lost. -/
theorem Opening.application (opening : Opening start before summary)
    (booked : Booked before.applications after.applications none sum)
    (same : after.endpoints = before.endpoints) (records : summary.Records sum counted) :
    Opening start after counted where
  toBalanced := opening.toBalanced.application booked same records
  applications := booked.lastRefusedLoss?_eq_none opening.applications
  endpoints := same ▸ opening.endpoints

/-- A series of calls of the endpoint store by which nothing was to be written as lost. -/
theorem Opening.endpoint (opening : Opening start before summary)
    (booked : Booked before.endpoints after.endpoints none sum)
    (same : after.applications = before.applications) (records : summary.Records sum counted) :
    Opening start after counted where
  toBalanced := opening.toBalanced.endpoint booked same records
  applications := same ▸ opening.applications
  endpoints := booked.lastRefusedLoss?_eq_none opening.endpoints

end Steps

/-! ## Writing candidates -/

section Writing

variable {supply : Nat → String} {start : Contents} {run : Run} {registry : UnreliableRegistry}
  {summary : Summary}

theorem ensures_addApplication (opening : Opening start registry summary) (seen : Application) :
    (addApplication run seen summary).Ensures (UnreliableRegistry.fickle supply)
      (fun result reached => Opening start reached result.2) registry := by
  refine ⟨trivial, fun reply after answered => ?_⟩
  obtain ⟨answered, same⟩ := answered
  have booked : Booked registry.applications after.applications none _ :=
    Booked.call opening.wellKept.applications answered (by simp [Answered.refusedLoss?])
  cases reply with
  | ok written =>
      rw [Answered.effects_added] at booked
      exact opening.application booked same ⟨rfl, rfl, rfl⟩
  | error fault =>
      rw [Answered.effects_eq_none rfl rfl rfl rfl] at booked
      cases fault <;> exact opening.application booked same ⟨rfl, rfl, rfl⟩

theorem ensures_addEndpoint (opening : Opening start registry summary) (seen : Endpoint) :
    (addEndpoint seen summary).Ensures (UnreliableRegistry.fickle supply)
      (fun counted reached => Opening start reached counted) registry := by
  refine ⟨trivial, fun reply after answered => ?_⟩
  obtain ⟨answered, same⟩ := answered
  have booked : Booked registry.endpoints after.endpoints none _ :=
    Booked.call opening.wellKept.endpoints answered (by simp [Answered.refusedLoss?])
  cases reply with
  | ok written =>
      rw [Answered.effects_added] at booked
      exact opening.endpoint booked same ⟨rfl, rfl, rfl⟩
  | error fault =>
      rw [Answered.effects_eq_none rfl rfl rfl rfl] at booked
      cases fault <;> exact opening.endpoint booked same ⟨rfl, rfl, rfl⟩

theorem ensures_writeApplication (opening : Opening start registry summary) (listed : Bool)
    (seen : Application) :
    (writeApplication run listed seen summary).Ensures (UnreliableRegistry.fickle supply)
      (fun result reached => Opening start reached result.2) registry := by
  cases listed with
  | false => exact ensures_addApplication opening seen
  | true =>
      have silent : lastRefusedLoss? registry.applications.calls ≠ some seen.applicationId := by
        simp [opening.applications]
      have revises := ensures_revise_booked supply
        (keepsIdentity_refreshedApplication run seen) (fun _ _ => isLost_refreshedApplication)
        run.attempts opening.wellKept.applications silent
      apply (ensures_onApplications revises).bind
      rintro ⟨result, applied, changed⟩ reached ⟨booked, same⟩
      cases result with
      | error fault => exact opening.application booked same ⟨rfl, rfl, rfl⟩
      | ok found =>
          cases found with
          | none =>
              rw [Revision.effects_gone] at booked
              exact ensures_addApplication (opening.application booked same ⟨rfl, rfl, rfl⟩) seen
          | some stored =>
              cases changed with
              | false => exact opening.application booked same ⟨rfl, rfl, rfl⟩
              | true => exact opening.application booked same ⟨rfl, Nat.add_right_comm _ _ _, rfl⟩

theorem ensures_writeEndpoint (opening : Opening start registry summary) (listed : Bool)
    (seen : Endpoint) :
    (writeEndpoint run listed seen summary).Ensures (UnreliableRegistry.fickle supply)
      (fun counted reached => Opening start reached counted) registry := by
  cases listed with
  | false => exact ensures_addEndpoint opening seen
  | true =>
      have silent : lastRefusedLoss? registry.endpoints.calls ≠ some seen.id := by
        simp [opening.endpoints]
      have revises := ensures_revise_booked supply
        (keepsIdentity_refreshedEndpoint seen) (fun _ _ => isLost_refreshedEndpoint)
        run.attempts opening.wellKept.endpoints silent
      apply (ensures_onEndpoints revises).bind
      rintro ⟨result, applied, changed⟩ reached ⟨booked, same⟩
      cases result with
      | error fault => exact opening.endpoint booked same ⟨rfl, rfl, rfl⟩
      | ok found =>
          cases found with
          | none =>
              rw [Revision.effects_gone] at booked
              exact ensures_addEndpoint (opening.endpoint booked same ⟨rfl, rfl, rfl⟩) seen
          | some stored =>
              cases changed with
              | false => exact opening.endpoint booked same ⟨rfl, rfl, rfl⟩
              | true => exact opening.endpoint booked same ⟨rfl, Nat.add_right_comm _ _ _, rfl⟩

variable {listed : Listed}

theorem ensures_writeEndpoints (opening : Opening start registry summary)
    (endpoints : List Endpoint) (seen : Seen) :
    (writeEndpoints run listed endpoints seen summary).Ensures (UnreliableRegistry.fickle supply)
      (fun result reached => Opening start reached result.2) registry := by
  induction endpoints generalizing registry summary seen with
  | nil => exact opening
  | cons first rest ih =>
      apply (ensures_writeEndpoint opening _ first).bind
      intro counted reached opening
      exact ih opening _

/-- A summary may skip what it likes. -/
theorem Opening.skip (opening : Opening start registry summary) (skipped : Nat) :
    Opening start registry { summary with skipped } where
  wellKept := opening.wellKept
  balances := ⟨opening.balances.added, opening.balances.written, opening.balances.lost⟩
  writes := opening.writes
  applications := opening.applications
  endpoints := opening.endpoints

theorem ensures_writeCandidates (opening : Opening start registry summary)
    (candidates : List Registration) (seen : Seen) :
    (writeCandidates run listed candidates seen summary).Ensures
      (UnreliableRegistry.fickle supply) (fun result reached => Opening start reached result.2)
      registry := by
  induction candidates generalizing registry summary seen with
  | nil => exact opening
  | cons first rest ih =>
      apply (ensures_writeApplication opening _ first.application).bind
      rintro ⟨outcome, counted⟩ reached opening
      simp only
      split
      · exact ih (opening.skip _) _
      · split
        · exact ih opening _
        · apply (ensures_writeEndpoints opening first.endpoints _).bind
          rintro ⟨seen, counted⟩ reached opening
          exact ih opening _

end Writing

/-! ## Making entities lost -/

section Losing

variable {supply : Nat → String} {start : Contents} {run : Run} {registry : UnreliableRegistry}
  {summary : Summary}

/-- What is counted of a revision that was to make an entity lost is what it has come to, and
an entity that was gone before it could be written as lost. -/
theorem records_countLost {α : Type} (revision : Revision α) (summary : Summary) :
    summary.Records (revision.effects true) (countLost revision summary) := by
  rcases revision with ⟨fault | found, applied, changed⟩
  · exact ⟨rfl, rfl, rfl⟩
  · cases found <;> cases changed <;> exact ⟨rfl, rfl, rfl⟩

theorem ensures_loseApplications (now : Timestamp) {ids : List String} (nodup : ids.Nodup)
    (balanced : Balanced start registry summary)
    (silent : ∀ id ∈ ids, lastRefusedLoss? registry.applications.calls ≠ some id) :
    (loseApplications run now ids summary).Ensures (UnreliableRegistry.fickle supply)
      (fun counted reached => Balanced start reached counted ∧
        reached.endpoints = registry.endpoints) registry := by
  induction ids generalizing registry summary with
  | nil => exact ⟨balanced, rfl⟩
  | cons first rest ih =>
      rw [List.nodup_cons] at nodup
      have revises := ensures_revise_booked supply
        (keepsIdentity_lostApplication run now) (fun _ _ => isLost_lostApplication)
        run.attempts balanced.wellKept.applications (silent first List.mem_cons_self)
      apply (ensures_onApplications revises).bind
      rintro revision reached ⟨booked, same⟩
      have silentRest : ∀ id ∈ rest, lastRefusedLoss? reached.applications.calls ≠ some id := by
        intro id member isRefused
        rcases booked.refused id isRefused with here | earlier
        · exact nodup.1 (Option.some.inj here ▸ member)
        · exact silent id (List.mem_cons_of_mem first member) earlier
      refine (ih nodup.2 (balanced.application booked same (records_countLost revision summary))
        silentRest).imp ?_
      rintro counted last ⟨balanced, still⟩
      exact ⟨balanced, still.trans same⟩

theorem ensures_loseEndpoints (now : Timestamp) {ids : List String} (nodup : ids.Nodup)
    (balanced : Balanced start registry summary)
    (silent : ∀ id ∈ ids, lastRefusedLoss? registry.endpoints.calls ≠ some id) :
    (loseEndpoints run now ids summary).Ensures (UnreliableRegistry.fickle supply)
      (fun counted reached => Balanced start reached counted) registry := by
  induction ids generalizing registry summary with
  | nil => exact balanced
  | cons first rest ih =>
      rw [List.nodup_cons] at nodup
      have revises := ensures_revise_booked supply
        (keepsIdentity_lostEndpoint now) (fun _ _ => isLost_lostEndpoint)
        run.attempts balanced.wellKept.endpoints (silent first List.mem_cons_self)
      apply (ensures_onEndpoints revises).bind
      rintro revision reached ⟨booked, same⟩
      have silentRest : ∀ id ∈ rest, lastRefusedLoss? reached.endpoints.calls ≠ some id := by
        intro id member isRefused
        rcases booked.refused id isRefused with here | earlier
        · exact nodup.1 (Option.some.inj here ▸ member)
        · exact silent id (List.mem_cons_of_mem first member) earlier
      exact ih nodup.2 (balanced.endpoint booked same (records_countLost revision summary))
        silentRest

end Losing

/-! ## A whole reconciliation -/

section Reconciling

variable {supply : Nat → String} {run : Run} {start : Contents} {registry : UnreliableRegistry}

theorem ensures_reconcileListed (opening : Opening start registry {}) (now : Timestamp)
    (results : List ResultRecord) {listed : Listed} (applicationsNodup : listed.applications.Nodup)
    (endpointsNodup : listed.endpoints.Nodup) :
    (reconcileListed run now results listed).Ensures (UnreliableRegistry.fickle supply)
      (fun result reached => ∃ summary, result = .ok summary ∧ Balanced start reached summary)
      registry := by
  apply (ensures_writeCandidates (opening.skip _) _ _).bind
  rintro ⟨seen, summary⟩ written opening
  have silent : ∀ id ∈ missing listed.applications seen.applications,
      lastRefusedLoss? written.applications.calls ≠ some id := by
    simp [opening.applications]
  apply (ensures_loseApplications now (applicationsNodup.filter _) opening.toBalanced silent).bind
  rintro summary between ⟨balanced, same⟩
  have silent : ∀ id ∈ missing listed.endpoints seen.endpoints,
      lastRefusedLoss? between.endpoints.calls ≠ some id := by
    simp [same, opening.endpoints]
  apply (ensures_loseEndpoints now (endpointsNodup.filter _) balanced silent).bind
  intro summary reached balanced
  exact ⟨summary, rfl, balanced⟩

/-- Over stores that are fickle a reconciliation always ends with a summary.  It counts the
additions, updates and losses that were carried out, which are all the writes of the stores,
and besides that, as lost, every entity that was gone when it was read again after its update
was refused.  So it counts real effects only if there are none of these, and only then. -/
theorem reconcile_ledger (supply : Nat → String) (run : Run) (now : Timestamp)
    (results : List ResultRecord) {contents : Contents} (kept : contents.WellKept) :
    (reconcile run now results).Ensures (UnreliableRegistry.fickle supply)
      (fun result reached => ∃ summary, result = .ok summary ∧
        summary.Balances reached.effects ∧
        (summary.Faithful reached.effects ↔ reached.effects.escapes = 0) ∧
        reached.writes = (UnreliableRegistry.of contents).writes +
          reached.effects.additions + reached.effects.updates) (.of contents) := by
  have initially : Opening contents (.of contents) {} :=
    ⟨⟨kept, ⟨rfl, rfl, rfl⟩, rfl⟩, rfl, rfl⟩
  rw [reconcile_eq]
  refine ⟨trivial, fun reply middle answered => ?_⟩
  obtain ⟨answered, same⟩ := answered
  cases answered.1.listBy_eq
  have booked : Booked (UnreliableRegistry.of contents).applications middle.applications none _ :=
    Booked.call kept.applications answered (by simp [Answered.refusedLoss?])
  rw [Answered.effects_eq_none rfl rfl rfl rfl] at booked
  have between := initially.application booked same ⟨rfl, rfl, rfl⟩
  refine ⟨trivial, fun reply start answered => ?_⟩
  obtain ⟨answered, still⟩ := answered
  cases answered.1.listBy_eq
  have booked : Booked middle.endpoints start.endpoints none _ :=
    Booked.call between.wellKept.endpoints answered (by simp [Answered.refusedLoss?])
  rw [Answered.effects_eq_none rfl rfl rfl rfl] at booked
  have opening := between.endpoint booked still ⟨rfl, rfl, rfl⟩
  have applicationsNodup := kept.applications.nodup_ownedBy_ids run.discovererId
  have endpointsNodup := between.wellKept.endpoints.nodup_ownedBy_ids run.discovererId
  refine (ensures_reconcileListed opening now results applicationsNodup endpointsNodup).imp ?_
  rintro result reached ⟨summary, rfl, balanced⟩
  exact ⟨summary, rfl, balanced.balances, balanced.balances.faithful_iff, balanced.writes⟩

/-- How a run ends that has seen nothing, over elusive stores. -/
def elusiveEnding : Except Fault Summary × UnreliableRegistry :=
  (reconcile smallRun Timestamp.epoch []).run (UnreliableRegistry.elusive toString)
    (.of smallRegistry)

/-- Over elusive stores an application and an endpoint are counted as lost of which neither was
written. -/
theorem elusive_entities_counted_as_lost :
    smallRegistry.WellKept ∧ elusiveEnding.1 = .ok { lost := 2 } ∧
      elusiveEnding.2.effects = { escapes := 2 } ∧
      ¬(reconcile smallRun Timestamp.epoch []).Ensures (UnreliableRegistry.fickle toString)
        (fun result reached => ∃ summary, result = .ok summary ∧
          summary.Faithful reached.effects) (.of smallRegistry) := by
  have kept : smallRegistry.WellKept := ⟨⟨by decide, by decide⟩, ⟨by decide, by decide⟩⟩
  have ended : elusiveEnding.1 = .ok { lost := 2 } := rfl
  have effects : elusiveEnding.2.effects = { escapes := 2 } := rfl
  refine ⟨kept, ended, effects, fun ensures => ?_⟩
  obtain ⟨summary, result, faithful⟩ :=
    ensures.run (UnreliableRegistry.elusive_fickle toString)
  have counted : .ok { lost := 2 } = Except.ok summary := ended.symm.trans result
  have lost : summary.lost = 0 := faithful.lost.trans (congrArg Effects.losses effects)
  cases counted
  contradiction

end Reconciling

end FieldSurvey.Registry
