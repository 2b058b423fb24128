import FieldSurvey.Proofs.Registry.Ownership
import FieldSurvey.Proofs.Registry.Reconciliation
import FieldSurvey.Proofs.Registry.Session

/-!
# Discoverers that share a registry

Any number of reconciliations may be at work on one registry.  They take turns in any order,
and a turn is a single call, which may also fail.  Whatever the order, every discoverer writes
what is its own only, and all that is stored remains and stays what it is.
-/

namespace FieldSurvey.Registry

open Model (Application Endpoint ResultRecord)
open Time (Timestamp)

/-- A call with its reply, and the registry to which it was made. -/
structure Deed (ι : Type) where
  client : ι
  before : Contents
  request : Call
  reply : Call.Reply request

variable {ι : Type}

/-- The application that a call has stored, if it has. -/
def Deed.application? : Deed ι → Option Application
  | ⟨client, _, .application request, reply⟩ => Exchange.written? ⟨client, request, reply⟩
  | _ => none

/-- The endpoint that a call has stored, if it has. -/
def Deed.endpoint? : Deed ι → Option Endpoint
  | ⟨client, _, .endpoint request, reply⟩ => Exchange.written? ⟨client, request, reply⟩
  | _ => none

/-- Reconciliations at work on a registry. -/
structure Traffic (ι : Type) where
  contents : Contents
  programs : ι → Program Calls (Except Fault Summary)
  deeds : List (Deed ι) := []

namespace Traffic

/-- The reconciliations before the first call. -/
def start (errands : ι → Errand) (contents : Contents) : Traffic ι where
  contents := contents
  programs client := (errands client).program

variable [DecidableEq ι]

/-- Someone makes its next call, if its reconciliation has not ended.  The call fails with a
fault if one is given. -/
def step (supply : Nat → String) (traffic : Traffic ι) (turn : ι × Option Fault) : Traffic ι :=
  match traffic.programs turn.1 with
  | .done _ => traffic
  | .call request next =>
    let (reply, contents) := Contents.answer supply turn.2 request traffic.contents
    { contents
      programs := Function.update traffic.programs turn.1 (next reply)
      deeds := traffic.deeds ++ [⟨turn.1, traffic.contents, request, reply⟩] }

/-- The reconciliations take turns in a given order. -/
def play (supply : Nat → String) (errands : ι → Errand) (contents : Contents)
    (turns : List (ι × Option Fault)) : Traffic ι :=
  turns.foldl (step supply) (start errands contents)

end Traffic

/-! ## What a single call writes -/

/-- What a discoverer stores is its own, and so was what stood in its place. -/
theorem Store.Permits.owned {α : Type} [Entity α] [LawfulEntity α] [NaturedEntity α]
    {supply : Nat → String} {fault? : Option Fault} {store : Store α} {discovererId : String}
    {request : StoreCall α} (permitted : store.Permits discovererId request) {client : ι}
    {stored : α} (wrote : Exchange.written?
      ⟨client, request, (answer supply fault? request store).1⟩ = some stored) :
    Entity.discovererId stored = some discovererId ∧
      ∀ former, store.get? (Entity.id stored) = some former →
        Entity.discovererId former = some discovererId := by
  cases fault? with
  | some fault => cases request <;> contradiction
  | none =>
      cases request with
      | get id => contradiction
      | listBy discovererId => contradiction
      | list => contradiction
      | add entity =>
          have own : Entity.discovererId entity = some discovererId := permitted
          cases found : store.get? (Entity.id entity) with
          | some former => simp [answer, found, Exchange.written?] at wrote
          | none =>
              simp only [answer, handler_add, add_of_free found, Exchange.written?,
                Option.some.injEq] at wrote
              subst wrote
              simp [write_fst, found, own]
      | update entity =>
          obtain ⟨former, stands, owned, same⟩ := permitted
          have sameOwner := NaturedEntity.discovererId_of_nature same
          simp only [answer, handler_update] at wrote
          rcases update_cases supply store entity with carriedOut | refused
          · simp only [carriedOut, Exchange.written?, Option.some.injEq] at wrote
            subst wrote
            simp [write_fst, stands, sameOwner, owned]
          · simp [refused, Exchange.written?] at wrote

/-- What a discoverer has stored is its own, and so was what stood in its place. -/
structure Deed.IsOwn (discovererId : String) (deed : Deed ι) : Prop where
  applications : ∀ stored, deed.application? = some stored →
    stored.discovererId = some discovererId ∧
      ∀ former, deed.before.applications.get? stored.applicationId = some former →
        former.discovererId = some discovererId
  endpoints : ∀ stored, deed.endpoint? = some stored →
    stored.discovererId = some discovererId ∧
      ∀ former, deed.before.endpoints.get? stored.id = some former →
        former.discovererId = some discovererId

theorem Contents.Permits.isOwn {contents : Contents} {discovererId : String} {request : Call}
    (permitted : contents.Permits discovererId request) (supply : Nat → String)
    (fault? : Option Fault) (client : ι) :
    Deed.IsOwn discovererId
      ⟨client, contents, request, (Contents.answer supply fault? request contents).1⟩ := by
  cases request with
  | application request =>
      exact ⟨fun stored wrote => Store.Permits.owned permitted wrote, by simp [Deed.endpoint?]⟩
  | endpoint request =>
      exact ⟨by simp [Deed.application?], fun stored wrote => Store.Permits.owned permitted wrote⟩

/-- What is stored in a registry is still stored in a later one, and has kept what it is
known by. -/
structure Remains (before after : Contents) : Prop where
  applications : ∀ id former, before.applications.get? id = some former →
    ∃ stored, after.applications.get? id = some stored ∧
      stored.applicationId = former.applicationId ∧
      stored.discovererId = former.discovererId ∧
      stored.applicationUri = former.applicationUri ∧
      stored.applicationType = former.applicationType
  endpoints : ∀ id former, before.endpoints.get? id = some former →
    ∃ stored, after.endpoints.get? id = some stored ∧
      stored.id = former.id ∧ stored.discovererId = former.discovererId

theorem Contents.Persists.remains {before after : Contents} (persists : before.Persists after) :
    Remains before after where
  applications id former present := by
    obtain ⟨stored, stands, same⟩ := persists.applications id former present
    exact ⟨stored, stands, congrArg (fun nature => nature.1) same,
      congrArg (fun nature => nature.2.1) same, congrArg (fun nature => nature.2.2.1) same,
      congrArg (fun nature => nature.2.2.2) same⟩
  endpoints id former present := by
    obtain ⟨stored, stands, same⟩ := persists.endpoints id former present
    exact ⟨stored, stands, congrArg Prod.fst same, congrArg Prod.snd same⟩

/-! ## Turns -/

namespace Traffic

variable {supply : Nat → String} {errands : ι → Errand} {traffic : Traffic ι}

/-- A registry that is well kept, on which everyone writes what is its own, as they did so
far. -/
structure Orderly (supply : Nat → String) (errands : ι → Errand) (traffic : Traffic ι) :
    Prop where
  wellKept : traffic.contents.WellKept
  programs : ∀ client, (traffic.programs client).Ensures
    (shared supply (errands client).run.discovererId) (fun _ _ => True) traffic.contents
  deeds : ∀ deed ∈ traffic.deeds, deed.IsOwn (errands deed.client).run.discovererId

theorem orderly_start (supply : Nat → String) (errands : ι → Errand) {contents : Contents}
    (kept : contents.WellKept) : (start errands contents).Orderly supply errands where
  wellKept := kept
  programs client := ensures_reconcile supply (errands client).run (errands client).now
    (errands client).results contents
  deeds := by simp [start]

variable [DecidableEq ι]

/-- A turn lets everything last. -/
theorem Orderly.persists (orderly : traffic.Orderly supply errands)
    (turn : ι × Option Fault) :
    traffic.contents.Persists (traffic.step supply turn).contents := by
  have ensures := orderly.programs turn.1
  unfold step
  cases program : traffic.programs turn.1 with
  | done result => exact .refl orderly.wellKept
  | call request next =>
      rw [program] at ensures
      have permitted := ensures.1 traffic.contents (.refl orderly.wellKept)
      exact Contents.Permits.persists permitted orderly.wellKept supply turn.2

theorem Orderly.step (orderly : traffic.Orderly supply errands) (turn : ι × Option Fault) :
    (traffic.step supply turn).Orderly supply errands := by
  have persists := orderly.persists turn
  have ensures := orderly.programs turn.1
  unfold Traffic.step at persists ⊢
  cases program : traffic.programs turn.1 with
  | done result => exact orderly
  | call request next =>
      rw [program] at ensures persists
      obtain ⟨permitted, rest⟩ := ensures
      have here := permitted traffic.contents (.refl orderly.wellKept)
      refine ⟨persists.wellKept, fun client => ?_, fun deed member => ?_⟩
      · by_cases same : client = turn.1
        · subst same
          simp only [Function.update_self]
          exact rest _ _ ⟨traffic.contents, .refl orderly.wellKept, turn.2, rfl⟩
        · simp only [Function.update_of_ne same]
          exact (orderly.programs client).later Contents.Persists.trans (fun _ _ => trivial)
            persists
      · rcases List.mem_append.mp member with earlier | last
        · exact orderly.deeds deed earlier
        · rw [List.mem_singleton.mp last]
          exact Contents.Permits.isOwn here supply turn.2 turn.1

theorem Orderly.foldl (orderly : traffic.Orderly supply errands)
    (turns : List (ι × Option Fault)) :
    (turns.foldl (Traffic.step supply) traffic).Orderly supply errands ∧
      traffic.contents.Persists (turns.foldl (Traffic.step supply) traffic).contents := by
  induction turns generalizing traffic with
  | nil => exact ⟨orderly, .refl orderly.wellKept⟩
  | cons turn rest ih =>
      obtain ⟨finally_, later⟩ := ih (orderly.step turn)
      exact ⟨finally_, (orderly.persists turn).trans later⟩

/-- Discoverers that share a registry are isolated from each other, in whatever order they
take turns: each writes only where nothing stands or something of its own does, and what is
stored at any time remains, with its ids, its owner, and the uri and type of an
application. -/
theorem discoverers_are_isolated (supply : Nat → String) (errands : ι → Errand)
    (contents : Contents) (kept : contents.WellKept) (turns : List (ι × Option Fault)) :
    (∀ deed ∈ (play supply errands contents turns).deeds,
      deed.IsOwn (errands deed.client).run.discovererId) ∧
    ∀ earlier later, turns = earlier ++ later →
      Remains (play supply errands contents earlier).contents
        (play supply errands contents turns).contents := by
  have orderly := orderly_start supply errands kept
  refine ⟨(orderly.foldl turns).1.deeds, ?_⟩
  rintro earlier later rfl
  have between := (orderly.foldl earlier).1.foldl later
  rw [← List.foldl_append] at between
  exact between.2.remains

/-- Two modules of one gateway, which derive the same ids. -/
def gatewayErrands (first : Bool) : Errand where
  run := { smallRun with discovererId := if first then "gate_module_a" else "gate_module_b" }
  now := Timestamp.epoch
  results := smallBatch

theorem gateway_modules_are_isolated :
    smallRegistry.WellKept ∧
    let turns := [(true, none), (false, none), (true, none), (false, none), (false, none),
      (true, some (Fault.storage "")), (true, none), (false, none), (true, none)]
    (∀ deed ∈ (play toString gatewayErrands smallRegistry turns).deeds,
      deed.IsOwn (gatewayErrands deed.client).run.discovererId) ∧
    ∀ earlier later, turns = earlier ++ later →
      Remains (play toString gatewayErrands smallRegistry earlier).contents
        (play toString gatewayErrands smallRegistry turns).contents := by
  have kept : smallRegistry.WellKept := ⟨⟨by decide, by decide⟩, ⟨by decide, by decide⟩⟩
  exact ⟨kept, discoverers_are_isolated toString gatewayErrands smallRegistry kept _⟩

end Traffic

end FieldSurvey.Registry
