import FieldSurvey.Proofs.Registry.Lineage
import FieldSurvey.Proofs.Registry.Store

/-!
# Contention for an entity

Revisions of one entity get in each other's way: of two that have read it in the same
generation, only one can write it.  The other one is refused and starts over.  Where every
client stands follows from its own calls and from what it has read last.
-/

namespace FieldSurvey.Registry

variable {ι α : Type}

/-! ## The course of a revision -/

/-- A client may apply its change `left` times more. -/
def attempting [Entity α] (id : String) (limit : Nat) (change : Nat → α → Option α)
    (applied : Nat) (changed : Bool) (left : Nat) : Program (StoreSignature α) (Answer α) :=
  (Revision.attempt id limit change applied changed left).bind fun revision =>
    .done (.revised revision)

/-- A client stores what has come of its change, and starts over if it is refused. -/
def storing [Entity α] (id : String) (limit : Nat) (change : Nat → α → Option α)
    (applied left : Nat) (entity : α) : Program (StoreSignature α) (Answer α) :=
  .call (.update entity) fun
    | .ok stored => .done (.revised ⟨.ok (some stored), applied + 1, true⟩)
    | .error fault =>
      if fault.isRetryable then attempting id limit change (applied + 1) true left
      else .done (.revised ⟨.error fault, applied + 1, true⟩)

/-- A client has read what is stored. -/
def judging [Entity α] (id : String) (limit : Nat) (change : Nat → α → Option α) (applied : Nat)
    (changed : Bool) (left : Nat) : Option α → Program (StoreSignature α) (Answer α)
  | none => .done (.revised ⟨.ok none, applied, changed⟩)
  | some current =>
    match change applied current with
    | none => .done (.revised ⟨.ok (some current), applied + 1, false⟩)
    | some entity => storing id limit change applied left entity

variable [Entity α]

theorem attempting_zero (id : String) (limit : Nat) (change : Nat → α → Option α) (applied : Nat)
    (changed : Bool) :
    attempting id limit change applied changed 0 =
      .done (.revised ⟨.error (.retriesExhausted id limit), applied, changed⟩) :=
  rfl

theorem attempting_succ (id : String) (limit : Nat) (change : Nat → α → Option α) (applied : Nat)
    (changed : Bool) (left : Nat) :
    attempting id limit change applied changed (left + 1) =
      .call (.get id) fun
        | .ok found => judging id limit change applied changed left found
        | .error fault => .done (.revised ⟨.error fault, applied, changed⟩) := by
  simp only [attempting, Revision.attempt, Program.call_bind]
  congr 1
  funext reply
  cases reply with
  | error fault => rfl
  | ok found =>
      cases found with
      | none => rfl
      | some current =>
          simp only [judging]
          cases change applied current with
          | none => rfl
          | some entity =>
              simp only [Program.call_bind, storing]
              congr 1
              funext answer
              cases answer with
              | ok stored => rfl
              | error fault =>
                  by_cases again : fault.isRetryable = true
                  · simp only [again, if_true, attempting]
                  · simp only [again, if_false, Program.done_bind, Bool.false_eq_true]

/-- A client whose change, however often it is applied, leaves the id and the generation
alone. -/
def Client.KeepsIdentity : Client α → Prop
  | add _ => True
  | revise _ _ change => ∀ count, Registry.KeepsIdentity (change count)

/-! ## What a client has read -/

/-- A client has found the entity that was stored last, and made no call since. -/
def Found (client : ι) (id : String) (current : α) (trace : List (Exchange ι α)) : Prop :=
  ∃ before between,
    trace = before ++ ⟨client, .get id, .ok (some current)⟩ :: between ∧
    (∀ exchange ∈ between, exchange.client ≠ client) ∧
    (writesTo id before).getLast?.map Prod.snd = some current

/-- Others have stored something under an id since a client found an entity there. -/
def Overtaken (client : ι) (id : String) (trace : List (Exchange ι α)) : Prop :=
  ∃ before current between,
    trace = before ++ ⟨client, .get id, .ok (some current)⟩ :: between ∧
    (∀ exchange ∈ between, exchange.client ≠ client) ∧
    writesTo id between ≠ []

/-- Whoever was refused had been overtaken. -/
def RefusalsJustified (trace : List (Exchange ι α)) : Prop :=
  ∀ ⦃earlier client entity fault later⦄,
    trace = earlier ++ ⟨client, .update entity, .error fault⟩ :: later →
      Overtaken client (Entity.id entity) earlier

theorem refusalsJustified_nil : RefusalsJustified ([] : List (Exchange ι α)) := by
  intro earlier client entity fault later split
  simp at split

theorem RefusalsJustified.concat {trace : List (Exchange ι α)} (justified : RefusalsJustified trace)
    {exchange : Exchange ι α}
    (overtaken : ∀ client entity fault, exchange = ⟨client, .update entity, .error fault⟩ →
      Overtaken client (Entity.id entity) trace) :
    RefusalsJustified (trace ++ [exchange]) := by
  intro earlier client entity fault later split
  rcases List.eq_nil_or_concat later with rfl | ⟨rest, last, rfl⟩
  · rcases List.append_inj' split rfl with ⟨rfl, same⟩
    exact overtaken client entity fault (List.singleton_inj.mp same)
  · have regrouped : trace ++ [exchange] =
        (earlier ++ ⟨client, .update entity, .error fault⟩ :: rest) ++ [last] := by
      rw [split, List.append_assoc, List.cons_append, List.concat_eq_append]
    exact justified (List.append_inj' regrouped rfl).1

theorem RefusalsJustified.concat_of_not {trace : List (Exchange ι α)}
    (justified : RefusalsJustified trace) {exchange : Exchange ι α}
    (accepted : exchange.isRefusal = false) : RefusalsJustified (trace ++ [exchange]) := by
  apply justified.concat
  rintro client entity fault rfl
  simp [Exchange.isRefusal] at accepted

namespace Found

variable {client : ι} {id : String} {current : α} {trace : List (Exchange ι α)}

theorem concat (found : Found client id current trace) {exchange : Exchange ι α}
    (apart : exchange.client ≠ client) : Found client id current (trace ++ [exchange]) := by
  rcases found with ⟨before, between, rfl, idle, latest⟩
  refine ⟨before, between ++ [exchange], by simp, ?_, latest⟩
  intro other member
  rcases List.mem_append.mp member with inBetween | last
  · exact idle other inBetween
  · rw [List.mem_singleton.mp last]
    exact apart

theorem mem_writesTo (found : Found client id current trace) :
    ∃ former, (former, current) ∈ writesTo id trace := by
  rcases found with ⟨before, between, rfl, _, latest⟩
  rcases Option.map_eq_some_iff.mp latest with ⟨⟨former, stored⟩, last, rfl⟩
  use former
  rw [writesTo_append]
  exact List.mem_append_left _ (List.mem_of_getLast? last)

/-- What a client has found is still the last entity under the id, unless it was
overtaken. -/
theorem latest_or_overtaken (found : Found client id current trace) :
    (∃ earlier former, writesTo id trace = earlier ++ [(former, current)]) ∨
      Overtaken client id trace := by
  rcases found with ⟨before, between, rfl, idle, latest⟩
  by_cases others : writesTo id between = []
  · left
    rcases Option.map_eq_some_iff.mp latest with ⟨⟨former, stored⟩, last, rfl⟩
    rcases List.getLast?_eq_some_iff.mp last with ⟨earlier, writes⟩
    use earlier, former
    rw [writesTo_append, writesTo_cons_of_quiet id rfl, others, List.append_nil, writes]
  · right
    exact ⟨before, current, between, rfl, idle, others⟩

/-- If an update is accepted, nobody has stored anything since the client has read. -/
theorem eq_of_accepts {supply : Nat → String} {store : Store α} (fresh : Function.Injective supply)
    (ledger : Ledger supply store trace) (found : Found client id current trace)
    {stored entity : α} (there : store.get? id = some stored)
    (sameGeneration : Entity.generation entity = Entity.generation current)
    (accepted : Store.accepts stored entity = true) : stored = current := by
  rcases found.mem_writesTo with ⟨reader, member⟩
  have known : current ∈ written trace := mem_written_of_mem_writesTo member
  have storedKnown : stored ∈ written trace := by
    rcases ledger.writesTo_of_get? there with ⟨earlier, former, writes⟩
    have last : (former, stored) ∈ writesTo id trace := by
      rw [writes]
      exact List.mem_append_right _ (List.mem_singleton_self _)
    exact mem_written_of_mem_writesTo last
  apply ledger.eq_of_generation_eq fresh storedKnown known
  rcases ledger.generation_of_mem known with ⟨generation, inGeneration⟩
  simp only [Store.accepts, sameGeneration, inGeneration, beq_iff_eq] at accepted
  rw [accepted, inGeneration]

/-- If an update is refused, somebody has stored something since the client has read. -/
theorem overtaken_of_not_accepts {supply : Nat → String} {store : Store α}
    (ledger : Ledger supply store trace) (found : Found client id current trace)
    {stored entity : α} (there : store.get? id = some stored)
    (sameGeneration : Entity.generation entity = Entity.generation current)
    (refused : ¬Store.accepts stored entity = true) : Overtaken client id trace := by
  rcases found.latest_or_overtaken with ⟨front, writer, unmoved⟩ | overtaken
  · rcases ledger.writesTo_of_get? there with ⟨earlier, former, writes⟩
    have same : [(former, stored)] = [(writer, current)] :=
      (List.append_inj' (writes.symm.trans unmoved) rfl).2
    simp only [List.cons.injEq, Prod.mk.injEq, and_true] at same
    exact absurd (Store.accepts_of_generation_eq (same.2 ▸ sameGeneration)) refused
  · exact overtaken

end Found

end FieldSurvey.Registry
