import FieldSurvey.Proofs.Registry.Isolation
import FieldSurvey.Proofs.Registry.Portion

/-!
# Independent reconciliations that take turns

Any number of reconciliations of different discoverers that derive different ids may take turns,
call by call.  What each does to the registry that they share is what it would do by itself to
its portion of it, if the generations were named there as they are in the whole.  By itself it
carries out its outlook, however generations are named.  So whatever the order of the calls, each
ends with the summary that it would have ended with alone, and the registries that they leave
differ in generations only.
-/

namespace FieldSurvey.Registry

open Model (Application Endpoint)

variable {ι : Type}

/-! ## Stores that differ in generations -/

namespace Store

variable {α : Type} [Entity α]

/-- Two stores hold the same entities under the same ids, but for the generations. -/
def Agrees (first second : Store α) : Prop :=
  ∀ id, (first.get? id).map (Entity.inGeneration none) =
    (second.get? id).map (Entity.inGeneration none)

variable [LawfulEntity α]

/-- An intent leaves open in which generations it is carried out. -/
theorem Becomes.agrees {before first second : Store α} {intent : Intent α}
    (one : before.Becomes intent first) (other : before.Becomes intent second) :
    first.Agrees second := by
  intro id
  cases intended : intent id (before.get? id) with
  | none => rw [one.kept intended, other.kept intended]
  | some entity =>
      obtain ⟨generation, wrote⟩ := one.written intended
      obtain ⟨otherGeneration, otherWrote⟩ := other.written intended
      simp [wrote, otherWrote]

/-- A store on which every client has carried out an intent in its portion, and that holds what
none of them owns as it was held before. -/
structure Settled (discovererOf : ι → String) (derived : ι → List String) (intents : ι → Intent α)
    (before after : Store α) : Prop where
  portions : ∀ client, ∃ part, Portion (discovererOf client) (derived client) after part ∧
    before.Becomes (intents client) part
  rest : ∀ id stored, (∀ client, Entity.discovererId stored ≠ some (discovererOf client)) →
    (after.get? id = some stored ↔ before.get? id = some stored)

variable {discovererOf : ι → String} {derived : ι → List String} {intents : ι → Intent α}
  {before first second : Store α}

/-- What stands in one settled store stands in any other one, in some generation. -/
theorem Settled.exists_of_get? (one : Settled discovererOf derived intents before first)
    (other : Settled discovererOf derived intents before second) {id : String} {stored : α}
    (present : first.get? id = some stored) :
    ∃ found, second.get? id = some found ∧
      Entity.inGeneration none found = Entity.inGeneration none stored := by
  by_cases owned : ∃ client, Entity.discovererId stored = some (discovererOf client)
  · obtain ⟨client, own⟩ := owned
    obtain ⟨part, portion, became⟩ := one.portions client
    obtain ⟨otherPart, otherPortion, otherBecame⟩ := other.portions client
    have agrees := became.agrees otherBecame id
    rw [(portion.get?_eq_some_iff own).mpr present, Option.map_some] at agrees
    obtain ⟨found, stands, same⟩ := Option.map_eq_some_iff.mp agrees.symm
    have sameOwner : Entity.discovererId found = Entity.discovererId stored := by
      rw [← LawfulEntity.discovererId_inGeneration none found, same,
        LawfulEntity.discovererId_inGeneration]
    exact ⟨found, (otherPortion.get?_eq_some_iff (sameOwner.trans own)).mp stands, same⟩
  · have foreign : ∀ client, Entity.discovererId stored ≠ some (discovererOf client) :=
      fun client own => owned ⟨client, own⟩
    have stood := (one.rest id stored foreign).mp present
    exact ⟨stored, (other.rest id stored foreign).mpr stood, rfl⟩

/-- What settled stores hold is determined but for generations. -/
theorem Settled.agrees (one : Settled discovererOf derived intents before first)
    (other : Settled discovererOf derived intents before second) : first.Agrees second := by
  intro id
  cases present : first.get? id with
  | some stored =>
      obtain ⟨found, stands, same⟩ := one.exists_of_get? other present
      rw [stands, Option.map_some, Option.map_some, same]
  | none =>
      cases stands : second.get? id with
      | none => rfl
      | some found =>
          obtain ⟨stored, contrary, -⟩ := other.exists_of_get? one stands
          rw [present] at contrary
          contradiction

end Store

/-- Two registries hold the same, but for the generations. -/
structure Contents.Agrees (first second : Contents) : Prop where
  applications : first.applications.Agrees second.applications
  endpoints : first.endpoints.Agrees second.endpoints

/-! ## A reconciliation among others -/

/-- A reconciliation that shares a registry stands as it would with a portion for itself.  So many
turns were taken, its own and those of others; the bound is the one from which its writes of
endpoints are counted. -/
def Stands (errand : Errand) (before : Contents) (bound turns : Nat)
    (program : Program Calls (Except Fault Summary)) (whole : Contents) : Prop :=
  ∃ part names, Contents.Portion errand whole part ∧
    Resumes errand.program before bound turns program part names

/-- A reconciliation has carried out its outlook in its portion of a registry. -/
def CarriedOut (errand : Errand) (before whole : Contents) : Prop :=
  ∃ part : Contents, Contents.Portion errand whole part ∧
    before.applications.Becomes (applicationOutlook errand.run errand.now errand.results)
      part.applications ∧
    before.endpoints.Becomes
      (endpointOutlook errand.run errand.now before.applications errand.results) part.endpoints

namespace Stands

variable {supply : Nat → String} {errand other : Errand} {before whole : Contents}
  {bound turns : Nat} {program : Program Calls (Except Fault Summary)} {request : Call}

theorem start (kept : before.WellKept) (errand : Errand) (bound : Nat) :
    Stands errand before bound 0 errand.program before :=
  ⟨before.countedFrom bound, fun _ => "", .countedFrom kept errand bound,
    .start errand.program before bound _⟩

theorem wait (stands : Stands errand before bound turns program whole) :
    Stands errand before bound (turns + 1) program whole := by
  obtain ⟨part, names, portion, resumes⟩ := stands
  exact ⟨part, names, portion, resumes.wait⟩

/-- The reconciliation makes its next call. -/
theorem call {next : Call.Reply request → Program Calls (Except Fault Summary)}
    (stands : Stands errand before bound turns (.call request next) whole)
    (confined : whole.Confines errand.run.discovererId errand.seen request)
    (room : turns < bound) :
    Stands errand before bound (turns + 1) (next (Contents.handler supply request whole).1)
      (Contents.handler supply request whole).2 := by
  obtain ⟨part, names, portion, resumes⟩ := stands
  -- what the call writes is to be named in the portion as it is named in the whole
  let named := Function.update names (part.writes request) (supply (whole.writes request))
  have isNamed : named (part.writes request) = supply (whole.writes request) :=
    Function.update_self _ _ _
  obtain ⟨reply, left⟩ := portion.handler confined isNamed
  have resumed := resumes.call room fun number (apart : number ≠ part.writes request) =>
    (Function.update_of_ne apart _ _ : named number = names number)
  exact ⟨_, named, left, reply ▸ resumed⟩

/-- Another reconciliation makes a call. -/
theorem others (stands : Stands errand before bound turns program whole)
    (independent : errand.Independent other)
    (confined : whole.Confines other.run.discovererId other.seen request) :
    Stands errand before bound (turns + 1) program (Contents.handler supply request whole).2 := by
  obtain ⟨part, names, portion, resumes⟩ := stands
  exact ⟨part, names, portion.others independent confined, resumes.wait⟩

/-- A reconciliation that has ended has carried out its outlook, and ends with the summary that it
would have ended with alone. -/
theorem ended {value : Except Fault Summary}
    (stands : Stands errand before bound turns (.done value) whole) (kept : before.WellKept)
    (separate : Separate errand.seen) :
    value = .ok (tally errand.run before errand.results) ∧ CarriedOut errand before whole := by
  obtain ⟨part, names, portion, resumes⟩ := stands
  have origin := Contents.Portion.countedFrom kept errand bound
  have originKept : (before.countedFrom bound).WellKept :=
    ⟨origin.applications.part_wellKept, origin.endpoints.part_wellKept⟩
  obtain ⟨after, ran, -, applications, endpoints⟩ :=
    run_reconcile names errand.run errand.now errand.results originKept separate
  have same : (Except.ok (tally errand.run (before.countedFrom bound) errand.results), after) =
      (value, part) :=
    ran.symm.trans (resumes.run_eq names fun _ _ => rfl)
  obtain ⟨sameValue, rfl⟩ := Prod.mk.inj same
  exact ⟨sameValue.symm, after, portion, applications, endpoints⟩

end Stands

/-! ## Reconciliations that take turns -/

theorem Contents.answer_none (supply : Nat → String) (request : Call) (contents : Contents) :
    Contents.answer supply none request contents = Contents.handler supply request contents := by
  cases request <;> rfl

namespace Traffic

variable {supply : Nat → String} {errands : ι → Errand} {before : Contents} {bound turns : Nat}
  {traffic : Traffic ι}

/-- Independent reconciliations at work, each of which stands as it would alone. -/
structure Parallel (supply : Nat → String) (errands : ι → Errand) (before : Contents)
    (bound turns : Nat) (traffic : Traffic ι) : Prop where
  wellKept : traffic.contents.WellKept
  programs : ∀ client, (traffic.programs client).Ensures
    (confined supply (errands client).run.discovererId (errands client).seen) (fun _ _ => True)
    traffic.contents
  stands : ∀ client, Stands (errands client) before bound turns (traffic.programs client)
    traffic.contents
  /-- what none of the discoverers owns stands as it stood -/
  applications : ∀ id stored,
    (∀ client, Entity.discovererId stored ≠ some (errands client).run.discovererId) →
    (traffic.contents.applications.get? id = some stored ↔
      before.applications.get? id = some stored)
  endpoints : ∀ id stored,
    (∀ client, Entity.discovererId stored ≠ some (errands client).run.discovererId) →
    (traffic.contents.endpoints.get? id = some stored ↔ before.endpoints.get? id = some stored)

theorem parallel_start (supply : Nat → String) (errands : ι → Errand) (kept : before.WellKept)
    (bound : Nat) : (start errands before).Parallel supply errands before bound 0 where
  wellKept := kept
  programs client := ensures_confined_reconcile supply (errands client) before
  stands client := .start kept (errands client) bound
  applications _ _ _ := Iff.rfl
  endpoints _ _ _ := Iff.rfl

section Agreement

variable (parallel : traffic.Parallel supply errands before bound turns)
  (carriedOut : ∀ client, CarriedOut (errands client) before traffic.contents)

include parallel carriedOut

theorem Parallel.settled_applications :
    Store.Settled (fun client => (errands client).run.discovererId)
      (fun client => derivedApplicationIds (errands client).seen)
      (fun client => applicationOutlook (errands client).run (errands client).now
        (errands client).results)
      before.applications traffic.contents.applications where
  portions client := by
    obtain ⟨part, portion, became, -⟩ := carriedOut client
    exact ⟨part.applications, portion.applications, became⟩
  rest := parallel.applications

theorem Parallel.settled_endpoints :
    Store.Settled (fun client => (errands client).run.discovererId)
      (fun client => derivedEndpointIds (errands client).seen)
      (fun client => endpointOutlook (errands client).run (errands client).now
        before.applications (errands client).results)
      before.endpoints traffic.contents.endpoints where
  portions client := by
    obtain ⟨part, portion, -, became⟩ := carriedOut client
    exact ⟨part.endpoints, portion.endpoints, became⟩
  rest := parallel.endpoints

/-- What the reconciliations leave is determined but for generations. -/
theorem Parallel.agrees {other : Traffic ι} {otherBound otherTurns : Nat}
    (others : other.Parallel supply errands before otherBound otherTurns)
    (otherCarriedOut : ∀ client, CarriedOut (errands client) before other.contents) :
    traffic.contents.Agrees other.contents where
  applications := (parallel.settled_applications carriedOut).agrees
    (others.settled_applications otherCarriedOut)
  endpoints := (parallel.settled_endpoints carriedOut).agrees
    (others.settled_endpoints otherCarriedOut)

end Agreement

variable [DecidableEq ι] {client : ι}

theorem step_of_done {value : Except Fault Summary}
    (ended : traffic.programs client = .done value) (fault? : Option Fault) :
    traffic.step supply (client, fault?) = traffic := by
  simp only [step, ended]

section Call

variable {request : Call} {next : Call.Reply request → Program Calls (Except Fault Summary)}

theorem step_of_call (calls : traffic.programs client = .call request next) :
    traffic.step supply (client, none) =
      { contents := (Contents.handler supply request traffic.contents).2
        programs := Function.update traffic.programs client
          (next (Contents.handler supply request traffic.contents).1)
        deeds := traffic.deeds ++ [⟨client, traffic.contents, request,
          (Contents.handler supply request traffic.contents).1⟩] } := by
  simp only [step, calls, Contents.answer_none]

theorem contents_step_of_call (calls : traffic.programs client = .call request next) :
    (traffic.step supply (client, none)).contents =
      (Contents.handler supply request traffic.contents).2 := by
  rw [step_of_call calls]

theorem programs_step_of_call (calls : traffic.programs client = .call request next) :
    (traffic.step supply (client, none)).programs client =
      next (Contents.handler supply request traffic.contents).1 := by
  rw [step_of_call calls]
  exact Function.update_self _ _ _

end Call

theorem programs_step_of_ne (supply : Nat → String) {other : ι} (apart : other ≠ client) :
    (traffic.step supply (client, none)).programs other = traffic.programs other := by
  cases program : traffic.programs client with
  | done value => rw [step_of_done program]
  | call request next =>
      rw [step_of_call program]
      exact Function.update_of_ne apart _ _

theorem Parallel.step (parallel : traffic.Parallel supply errands before bound turns)
    (independent : ∀ one other, one ≠ other → (errands one).Independent (errands other))
    (room : turns < bound) (client : ι) :
    (traffic.step supply (client, none)).Parallel supply errands before bound (turns + 1) := by
  cases program : traffic.programs client with
  | done value =>
      rw [step_of_done program]
      exact { parallel with stands := fun other => (parallel.stands other).wait }
  | call request next =>
      have ensures := parallel.programs client
      rw [program] at ensures
      obtain ⟨permitted, rest⟩ := ensures
      have confined := permitted traffic.contents (.refl parallel.wellKept)
      have answer := Contents.answer_none supply request traffic.contents
      have persists := confined.permits.persists parallel.wellKept supply none
      have spared := confined.spares supply
      rw [answer] at persists
      rw [← contents_step_of_call program] at persists spared
      refine ⟨persists.wellKept, fun other => ?_, fun other => ?_, ?_, ?_⟩
      · by_cases same : other = client
        · subst same
          rw [programs_step_of_call program, contents_step_of_call program]
          exact rest _ _ ⟨traffic.contents, .refl parallel.wellKept, none, answer⟩
        · rw [programs_step_of_ne supply same]
          exact (parallel.programs other).later Contents.Persists.trans (fun _ _ => trivial)
            persists
      · have stands := parallel.stands other
        rw [contents_step_of_call program]
        by_cases same : other = client
        · subst same
          rw [program] at stands
          rw [programs_step_of_call program]
          exact stands.call confined room
        · rw [programs_step_of_ne supply same]
          exact stands.others (independent other client same) confined
      · intro id stored foreign
        exact (spared.applications id stored (foreign client)).trans
          (parallel.applications id stored foreign)
      · intro id stored foreign
        exact (spared.endpoints id stored (foreign client)).trans
          (parallel.endpoints id stored foreign)

/-- The reconciliations go on, taking turns in a given order, and no call fails. -/
def goOn (supply : Nat → String) (traffic : Traffic ι) (order : List ι) : Traffic ι :=
  order.foldl (fun traffic client => traffic.step supply (client, none)) traffic

theorem goOn_append (supply : Nat → String) (traffic : Traffic ι) (front back : List ι) :
    traffic.goOn supply (front ++ back) = (traffic.goOn supply front).goOn supply back :=
  List.foldl_append

theorem Parallel.goOn (parallel : traffic.Parallel supply errands before bound turns)
    (independent : ∀ one other, one ≠ other → (errands one).Independent (errands other))
    (order : List ι) (room : turns + order.length ≤ bound) :
    (traffic.goOn supply order).Parallel supply errands before bound (turns + order.length) := by
  induction order generalizing traffic turns with
  | nil => exact parallel
  | cons client rest ih =>
      rw [List.length_cons] at room
      have later := ih (parallel.step independent (by omega) client) (by omega)
      rwa [Nat.add_right_comm, Nat.add_assoc] at later

/-- The reconciliations take turns in a given order, and no call fails. -/
def interleave (supply : Nat → String) (errands : ι → Errand) (contents : Contents)
    (order : List ι) : Traffic ι :=
  (start errands contents).goOn supply order

theorem parallel_interleave (supply : Nat → String) (kept : before.WellKept)
    (independent : ∀ one other, one ≠ other → (errands one).Independent (errands other))
    (order : List ι) :
    (interleave supply errands before order).Parallel supply errands before order.length
      order.length := by
  have parallel := (parallel_start supply errands kept order.length).goOn independent order
    (by omega)
  rwa [Nat.zero_add] at parallel

/-- A reconciliation that is left to itself runs to its end. -/
theorem exists_alone (supply : Nat → String) (client : ι) (traffic : Traffic ι) :
    ∃ count,
      let after := traffic.goOn supply (List.replicate count client)
      let ran := (traffic.programs client).run (Contents.handler supply) traffic.contents
      after.contents = ran.2 ∧ after.programs client = .done ran.1 ∧
        ∀ other, other ≠ client → after.programs other = traffic.programs other := by
  generalize program : traffic.programs client = rest
  induction rest generalizing traffic with
  | done value => exact ⟨0, rfl, program, fun _ _ => rfl⟩
  | call request next ih =>
      obtain ⟨count, contents, ended, others⟩ := ih _ (traffic.step supply (client, none))
        (programs_step_of_call program)
      rw [contents_step_of_call program] at contents ended
      refine ⟨count + 1, contents, ended, fun other apart => ?_⟩
      exact (others other apart).trans (programs_step_of_ne supply apart)

/-- One after the other, two reconciliations take turns in a way of their own. -/
theorem exists_interleave_of_runs (supply : Nat → String) (errands : ι → Errand)
    (contents : Contents) {first second : ι} (apart : first ≠ second) :
    ∃ order,
      let after := interleave supply errands contents order
      let one := (errands first).program.run (Contents.handler supply) contents
      let other := (errands second).program.run (Contents.handler supply) one.2
      after.programs first = .done one.1 ∧ after.programs second = .done other.1 ∧
        after.contents = other.2 := by
  obtain ⟨firstCount, firstContents, firstEnded, firstOthers⟩ :=
    exists_alone supply first (start errands contents)
  obtain ⟨secondCount, secondContents, secondEnded, secondOthers⟩ :=
    exists_alone supply second
      ((start errands contents).goOn supply (List.replicate firstCount first))
  rw [firstContents, firstOthers second apart.symm] at secondContents secondEnded
  refine ⟨List.replicate firstCount first ++ List.replicate secondCount second, ?_⟩
  rw [interleave, goOn_append]
  exact ⟨(secondOthers first apart).trans firstEnded, secondEnded, secondContents⟩

/-! ## Schedules without an end -/

/-- Everyone takes turns again and again. -/
def Fair (schedule : Nat → ι) : Prop :=
  ∀ client moment, ∃ later, moment ≤ later ∧ schedule later = client

/-- The reconciliations at a moment of a schedule. -/
def atMoment (supply : Nat → String) (errands : ι → Errand) (contents : Contents)
    (schedule : Nat → ι) (moment : Nat) : Traffic ι :=
  interleave supply errands contents ((List.range moment).map schedule)

section Schedule

variable {contents : Contents} {schedule : Nat → ι} {moment : Nat}

theorem atMoment_succ (supply : Nat → String) (errands : ι → Errand) (contents : Contents)
    (schedule : Nat → ι) (moment : Nat) :
    atMoment supply errands contents schedule (moment + 1) =
      (atMoment supply errands contents schedule moment).step supply (schedule moment, none) := by
  rw [atMoment, List.range_succ, List.map_append, interleave, goOn_append]
  rfl

/-- A reconciliation that has ended does not go on. -/
theorem ended_of_le {value : Except Fault Summary}
    (ended : (atMoment supply errands contents schedule moment).programs client = .done value)
    {later : Nat} (since : moment ≤ later) :
    (atMoment supply errands contents schedule later).programs client = .done value := by
  induction later, since using Nat.le_induction with
  | base => exact ended
  | succ between _ ih =>
      rw [atMoment_succ]
      by_cases same : client = schedule between
      · rw [← same, step_of_done ih, ih]
      · rw [programs_step_of_ne supply same, ih]

section Calling

variable {request : Call} {next : Call.Reply request → Program Calls (Except Fault Summary)}
  (calls : (atMoment supply errands contents schedule moment).programs client =
    .call request next)

include calls

theorem programs_of_turn (isTurn : schedule moment = client) :
    (atMoment supply errands contents schedule (moment + 1)).programs client =
      next (Contents.handler supply request
        (atMoment supply errands contents schedule moment).contents).1 := by
  rw [atMoment_succ, isTurn]
  exact programs_step_of_call calls

/-- A reconciliation that waits makes its call once its turn has come. -/
theorem exists_answered {steps : Nat} (isTurn : schedule (moment + steps) = client) :
    ∃ later reply,
      (atMoment supply errands contents schedule later).programs client = next reply := by
  induction steps generalizing moment with
  | zero => exact ⟨moment + 1, _, programs_of_turn calls isTurn⟩
  | succ steps ih =>
      by_cases now : schedule moment = client
      · exact ⟨moment + 1, _, programs_of_turn calls now⟩
      · have waits := (programs_step_of_ne supply (Ne.symm now)).trans calls
        rw [← atMoment_succ] at waits
        exact ih waits (by rwa [Nat.add_right_comm])

end Calling

/-- Whoever takes turns again and again comes to its end. -/
theorem exists_ended (supply : Nat → String) (errands : ι → Errand) (contents : Contents)
    (fair : Fair schedule) (client : ι) :
    ∃ moment value,
      (atMoment supply errands contents schedule moment).programs client = .done value := by
  suffices ∀ moment, ∃ later value,
      (atMoment supply errands contents schedule later).programs client = .done value from this 0
  intro moment
  generalize program : (atMoment supply errands contents schedule moment).programs client = rest
  induction rest generalizing moment with
  | done value => exact ⟨moment, value, program⟩
  | call request next ih =>
      obtain ⟨later, since, isTurn⟩ := fair client moment
      obtain ⟨steps, rfl⟩ := Nat.exists_eq_add_of_le since
      obtain ⟨after, reply, answered⟩ := exists_answered program isTurn
      exact ih reply after answered

end Schedule

end Traffic

end FieldSurvey.Registry
