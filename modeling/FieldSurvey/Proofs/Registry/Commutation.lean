import FieldSurvey.Proofs.Registry.Consistency
import FieldSurvey.Proofs.Registry.Interleaving

/-!
# Independent reconciliations commute

Two reconciliations of different discoverers that derive different ids may be run one after the
other, in either order, or take turns call by call: each ends with the summary that it would
have ended with alone, and the registries that they leave differ in generations only.  Gateways
that differ are enough for that, where no sites are set.
-/

namespace FieldSurvey.Registry

open Model (Application Endpoint)
open Time (Timestamp)

/-! ## Endings -/

/-- What two errands end with, and the registry that they leave. -/
structure Ending where
  first : Except Fault Summary
  second : Except Fault Summary
  contents : Contents

/-- Two endings with the same summaries and, but for the generations, the same registry. -/
structure Ending.Agrees (one other : Ending) : Prop where
  first : one.first = other.first
  second : one.second = other.second
  contents : one.contents.Agrees other.contents

/-- The first errand is run, and then the second one. -/
def firstThenSecond (supply : Nat → String) (first second : Errand) (contents : Contents) :
    Ending :=
  let one := first.program.run (Contents.handler supply) contents
  let other := second.program.run (Contents.handler supply) one.2
  { first := one.1, second := other.1, contents := other.2 }

/-- The second errand is run, and then the first one. -/
def secondThenFirst (supply : Nat → String) (first second : Errand) (contents : Contents) :
    Ending :=
  let one := second.program.run (Contents.handler supply) contents
  let other := first.program.run (Contents.handler supply) one.2
  { first := other.1, second := one.1, contents := other.2 }

/-- Two errands, told apart by whether they are the first one. -/
def pair (first second : Errand) (isFirst : Bool) : Errand :=
  if isFirst then first else second

/-- What two errands that take turns end with, once they have ended. -/
def Traffic.ending? (traffic : Traffic Bool) : Option Ending :=
  match traffic.programs true, traffic.programs false with
  | .done first, .done second => some ⟨first, second, traffic.contents⟩
  | _, _ => none

theorem Traffic.ending?_eq_some_iff {traffic : Traffic Bool} {ending : Ending} :
    traffic.ending? = some ending ↔ traffic.programs true = .done ending.first ∧
      traffic.programs false = .done ending.second ∧ traffic.contents = ending.contents := by
  unfold Traffic.ending?
  constructor
  · intro ended
    split at ended
    · rename_i first second firstEnded secondEnded
      obtain rfl := Option.some.inj ended
      exact ⟨firstEnded, secondEnded, rfl⟩
    · contradiction
  · rintro ⟨first, second, contents⟩
    simp only [first, second, contents]

/-- Two errands commute on a registry. -/
structure Commuting (supply : Nat → String) (first second : Errand) (contents : Contents) :
    Prop where
  /-- each ends with the summary that it would have ended with alone -/
  summaries : (firstThenSecond supply first second contents).first =
      .ok (tally first.run contents first.results) ∧
    (firstThenSecond supply first second contents).second =
      .ok (tally second.run contents second.results)
  swapped : (firstThenSecond supply first second contents).Agrees
    (secondThenFirst supply first second contents)
  /-- whatever the order of their calls -/
  interleaved : ∀ order ending,
    (Traffic.interleave supply (pair first second) contents order).ending? = some ending →
      (firstThenSecond supply first second contents).Agrees ending
  ends : ∀ schedule, Traffic.Fair schedule → ∃ moment ending,
    (Traffic.atMoment supply (pair first second) contents schedule moment).ending? = some ending

section Two

variable {first second : Errand} {contents : Contents}

theorem mem_seenBy_pair (isFirst : Bool) {sighting : Application × Endpoint}
    (member : sighting ∈ (pair first second isFirst).seen) :
    sighting ∈ seenBy [first, second] := by
  refine List.mem_flatMap.mpr ⟨pair first second isFirst, ?_, member⟩
  cases isFirst <;> simp [pair]

theorem Errand.Independent.symm (independent : first.Independent second) :
    second.Independent first :=
  ⟨independent.discoverers.symm, independent.applications.symm, independent.endpoints.symm⟩

/-- Without collisions different applications have different endpoints. -/
theorem independent_of_free (free : CollisionFree (seenBy [first, second]))
    (discoverers : first.run.discovererId ≠ second.run.discovererId)
    (apart : (derivedApplicationIds first.seen).Disjoint (derivedApplicationIds second.seen)) :
    first.Independent second where
  discoverers := discoverers
  applications := apart
  endpoints := by
    intro id inFirst inSecond
    obtain ⟨one, oneSeen, rfl⟩ := List.mem_map.mp inFirst
    obtain ⟨other, otherSeen, same⟩ := List.mem_map.mp inSecond
    have oneMember : one ∈ seenBy [first, second] := mem_seenBy_pair true oneSeen
    have otherMember : other ∈ seenBy [first, second] := mem_seenBy_pair false otherSeen
    have applications := free.separate one oneMember other otherMember same.symm
    exact apart (List.mem_map_of_mem oneSeen) (applications ▸ List.mem_map_of_mem otherSeen)

theorem CollisionFree.separate_pair (free : CollisionFree (seenBy [first, second]))
    (isFirst : Bool) : Separate (pair first second isFirst).seen :=
  fun one oneMember other otherMember =>
    free.separate one (mem_seenBy_pair isFirst oneMember) other
      (mem_seenBy_pair isFirst otherMember)

theorem independent_pair (independent : first.Independent second) :
    ∀ one other, one ≠ other →
      (pair first second one).Independent (pair first second other) := by
  intro one other apart
  cases one <;> cases other
  · contradiction
  · exact independent.symm
  · exact independent
  · contradiction

variable {supply : Nat → String} {order otherOrder : List Bool} {ending otherEnding : Ending}

/-- How the calls are ordered, both errands carry out their outlooks. -/
theorem carriedOut_of_ended (kept : contents.WellKept) (independent : first.Independent second)
    (separate : ∀ isFirst, Separate (pair first second isFirst).seen)
    (ended : (Traffic.interleave supply (pair first second) contents order).ending? =
      some ending) :
    ending.first = .ok (tally first.run contents first.results) ∧
      ending.second = .ok (tally second.run contents second.results) ∧
      ∀ isFirst, CarriedOut (pair first second isFirst) contents ending.contents := by
  obtain ⟨firstEnded, secondEnded, same⟩ := Traffic.ending?_eq_some_iff.mp ended
  have parallel := Traffic.parallel_interleave supply kept (independent_pair independent) order
  have firstStands := parallel.stands true
  have secondStands := parallel.stands false
  rw [firstEnded, same] at firstStands
  rw [secondEnded, same] at secondStands
  obtain ⟨firstSummary, firstCarriedOut⟩ := firstStands.ended kept (separate true)
  obtain ⟨secondSummary, secondCarriedOut⟩ := secondStands.ended kept (separate false)
  refine ⟨firstSummary, secondSummary, fun isFirst => ?_⟩
  cases isFirst with
  | false => exact secondCarriedOut
  | true => exact firstCarriedOut

/-- In whatever order the calls are made, two errands come to the same. -/
theorem agrees_of_ended (kept : contents.WellKept) (independent : first.Independent second)
    (separate : ∀ isFirst, Separate (pair first second isFirst).seen)
    (ended : (Traffic.interleave supply (pair first second) contents order).ending? =
      some ending)
    (otherEnded : (Traffic.interleave supply (pair first second) contents otherOrder).ending? =
      some otherEnding) : ending.Agrees otherEnding := by
  obtain ⟨oneFirst, oneSecond, oneCarriedOut⟩ :=
    carriedOut_of_ended kept independent separate ended
  obtain ⟨otherFirst, otherSecond, otherCarriedOut⟩ :=
    carriedOut_of_ended kept independent separate otherEnded
  have parallel := Traffic.parallel_interleave supply kept (independent_pair independent)
  obtain ⟨-, -, same⟩ := Traffic.ending?_eq_some_iff.mp ended
  obtain ⟨-, -, otherSame⟩ := Traffic.ending?_eq_some_iff.mp otherEnded
  refine ⟨oneFirst.trans otherFirst.symm, oneSecond.trans otherSecond.symm, ?_⟩
  rw [← same] at oneCarriedOut ⊢
  rw [← otherSame] at otherCarriedOut ⊢
  exact (parallel order).agrees oneCarriedOut (parallel otherOrder) otherCarriedOut

/-- To run one errand after the other is one way of taking turns. -/
theorem exists_interleave_eq_firstThenSecond (supply : Nat → String) (first second : Errand)
    (contents : Contents) :
    ∃ order, (Traffic.interleave supply (pair first second) contents order).ending? =
      some (firstThenSecond supply first second contents) := by
  obtain ⟨order, one, other, same⟩ :=
    Traffic.exists_interleave_of_runs supply (pair first second) contents
      (show true ≠ false by decide)
  exact ⟨order, Traffic.ending?_eq_some_iff.mpr ⟨one, other, same⟩⟩

theorem exists_interleave_eq_secondThenFirst (supply : Nat → String) (first second : Errand)
    (contents : Contents) :
    ∃ order, (Traffic.interleave supply (pair first second) contents order).ending? =
      some (secondThenFirst supply first second contents) := by
  obtain ⟨order, one, other, same⟩ :=
    Traffic.exists_interleave_of_runs supply (pair first second) contents
      (show false ≠ true by decide)
  exact ⟨order, Traffic.ending?_eq_some_iff.mpr ⟨other, one, same⟩⟩

/-- Errands that take turns again and again end. -/
theorem exists_ending (supply : Nat → String) (first second : Errand) (contents : Contents)
    {schedule : Nat → Bool} (fair : Traffic.Fair schedule) :
    ∃ moment ending,
      (Traffic.atMoment supply (pair first second) contents schedule moment).ending? =
        some ending := by
  obtain ⟨firstMoment, firstValue, firstEnded⟩ :=
    Traffic.exists_ended supply (pair first second) contents fair true
  obtain ⟨secondMoment, secondValue, secondEnded⟩ :=
    Traffic.exists_ended supply (pair first second) contents fair false
  exact ⟨max firstMoment secondMoment, ⟨firstValue, secondValue, _⟩,
    Traffic.ending?_eq_some_iff.mpr
      ⟨Traffic.ended_of_le firstEnded (Nat.le_max_left _ _),
        Traffic.ended_of_le secondEnded (Nat.le_max_right _ _), rfl⟩⟩

end Two

/-! ## Errands that commute -/

/-- Discoverers on different gateways derive different ids, where no sites are set. -/
theorem disjoint_applicationIds_of_gateways {first second : Errand}
    (unmistakable : Unmistakable (seenBy [first, second]))
    (siteless : ∀ sighting ∈ seenBy [first, second], sighting.1.siteId = none)
    (gateways : Identity.gatewayId first.run.discovererId ≠
      Identity.gatewayId second.run.discovererId) :
    (derivedApplicationIds first.seen).Disjoint (derivedApplicationIds second.seen) := by
  intro id inFirst inSecond
  obtain ⟨one, oneSeen, sameOne⟩ := List.mem_map.mp inFirst
  obtain ⟨other, otherSeen, sameOther⟩ := List.mem_map.mp inSecond
  have oneMember : one ∈ seenBy [first, second] := mem_seenBy_pair true oneSeen
  have otherMember : other ∈ seenBy [first, second] := mem_seenBy_pair false otherSeen
  have oneOwned := (discovererId_of_mem_sightings oneSeen).1
  have otherOwned := (discovererId_of_mem_sightings otherSeen).1
  have digests := digestText_of_derivedId? oneOwned otherOwned
    (sameOne ▸ derivedId?_of_mem_sightings oneSeen)
    (sameOther ▸ derivedId?_of_mem_sightings otherSeen)
  have texts := unmistakable.applications one oneMember other otherMember digests
  rw [applicationText_of_owned oneOwned, applicationText_of_owned otherOwned,
    siteless one oneMember, siteless other otherMember] at texts
  exact gateways (Identity.applicationSource_inj texts).1

/-- Reconciliations of different discoverers that derive different ids commute on every
registry. -/
theorem independent_errands_commute (supply : Nat → String) (first second : Errand)
    (contents : Contents) (kept : contents.WellKept)
    (discoverers : first.run.discovererId ≠ second.run.discovererId)
    (apart : (derivedApplicationIds first.seen).Disjoint (derivedApplicationIds second.seen))
    (free : CollisionFree (seenBy [first, second])) :
    Commuting supply first second contents := by
  have independent := independent_of_free free discoverers apart
  have separate := free.separate_pair
  obtain ⟨leading, leadingEnded⟩ :=
    exists_interleave_eq_firstThenSecond supply first second contents
  obtain ⟨trailing, trailingEnded⟩ :=
    exists_interleave_eq_secondThenFirst supply first second contents
  have carried := carriedOut_of_ended kept independent separate leadingEnded
  exact
    { summaries := ⟨carried.1, carried.2.1⟩
      swapped := agrees_of_ended kept independent separate leadingEnded trailingEnded
      interleaved := fun order ending ended =>
        agrees_of_ended kept independent separate leadingEnded ended
      ends := fun schedule fair => exists_ending supply first second contents fair }

/-- An errand of the owner of the other server in the small registry. -/
def fenceErrand : Errand where
  run := { smallRun with discovererId := "fence" }
  now := Timestamp.epoch
  results := [recordOf "opc.tcp://a"]

/-- What a discoverer sees by such a record, with the id that it derives for the server. -/
def sightingFor (discovererId : String) : Application × Endpoint :=
  let id := Identity.applicationMark .server ++ Identity.digestText
    (Identity.applicationSource (some (Identity.gatewayId discovererId)) "urn:server" .server)
  (ownedApplication discovererId id smallApplication,
    ownedEndpoint discovererId id smallApplication
      { id := "", applicationId := "", endpointUrl := "opc.tcp://a" })

theorem seenBy_gate_and_fence :
    seenBy [smallErrand, fenceErrand] = [sightingFor "gate", sightingFor "fence"] :=
  rfl

/-- Where two values have different digests, the digests tell their texts. -/
theorem text_eq_of_digest_eq {β γ δ : Type} {one other : β} {digest : β → γ} {text : β → δ}
    (apart : digest one ≠ digest other) :
    ∀ first ∈ [one, other], ∀ second ∈ [one, other],
      digest first = digest second → text first = text second := by
  intro first firstMember second secondMember same
  rcases List.mem_pair.mp firstMember with rfl | rfl <;>
    rcases List.mem_pair.mp secondMember with rfl | rfl
  · rfl
  · exact absurd same apart
  · exact absurd same.symm apart
  · rfl

theorem unmistakable_gate_and_fence : Unmistakable (seenBy [smallErrand, fenceErrand]) := by
  have applications : Identity.digestText (applicationText (sightingFor "gate").1) ≠
      Identity.digestText (applicationText (sightingFor "fence").1) := by decide +kernel
  have endpoints : Identity.digestText (endpointText (sightingFor "gate").2) ≠
      Identity.digestText (endpointText (sightingFor "fence").2) := by decide +kernel
  rw [seenBy_gate_and_fence]
  exact ⟨text_eq_of_digest_eq applications, text_eq_of_digest_eq endpoints⟩

theorem gate_and_fence_commute :
    smallRegistry.WellKept ∧ "gate" ≠ "fence" ∧
    (derivedApplicationIds smallErrand.seen).Disjoint (derivedApplicationIds fenceErrand.seen) ∧
    CollisionFree (seenBy [smallErrand, fenceErrand]) ∧
    Commuting toString smallErrand fenceErrand smallRegistry := by
  have kept : smallRegistry.WellKept := ⟨⟨by decide, by decide⟩, ⟨by decide, by decide⟩⟩
  have discoverers : smallErrand.run.discovererId ≠ fenceErrand.run.discovererId := by decide
  have gateways : Identity.gatewayId "gate" ≠ Identity.gatewayId "fence" := by decide +kernel
  have siteless : ∀ sighting ∈ seenBy [smallErrand, fenceErrand], sighting.1.siteId = none := by
    rw [seenBy_gate_and_fence]
    intro sighting member
    rcases List.mem_pair.mp member with rfl | rfl <;> rfl
  have unmistakable := unmistakable_gate_and_fence
  have apart := disjoint_applicationIds_of_gateways unmistakable siteless gateways
  exact ⟨kept, discoverers, apart, unmistakable.endpoints,
    independent_errands_commute toString smallErrand fenceErrand smallRegistry kept discoverers
      apart unmistakable.endpoints⟩

end FieldSurvey.Registry
