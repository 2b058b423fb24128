import FieldSurvey.Registry.Store

/-!
# Revisions

A revision reads an entity, changes it and writes it back.  If the entity was
written by someone else in between, the revision starts over with a fresh read,
up to a number of attempts.
-/

namespace FieldSurvey.Registry

/-- What came of a revision. -/
structure Revision (α : Type) where
  /-- the entity as it is stored now, or nothing if there is none -/
  result : Except Fault (Option α)
  /-- how often the change was applied -/
  applied : Nat
  /-- whether the change made a difference the last time it was applied -/
  changed : Bool

namespace Revision

variable {α : Type} [Entity α]

/-- Tries a revision up to `attempts` times.  `change` yields the new entity,
or nothing if it makes no difference; it is told how often it was applied before.
`applied` and `changed` tell of the attempts that were made already, and `limit`
how many are allowed in all. -/
def attempt (id : String) (limit : Nat) (change : Nat → α → Option α) (applied : Nat)
    (changed : Bool) : (attempts : Nat) → Program (StoreSignature α) (Revision α)
  | 0 => .done ⟨.error (.retriesExhausted id limit), applied, changed⟩
  | attempts + 1 =>
    .call (.get id) fun
      | .error fault => .done ⟨.error fault, applied, changed⟩
      | .ok none => .done ⟨.ok none, applied, changed⟩
      | .ok (some current) =>
        match change applied current with
        | none => .done ⟨.ok (some current), applied + 1, false⟩
        | some entity =>
          .call (.update entity) fun
            | .ok written => .done ⟨.ok (some written), applied + 1, true⟩
            | .error fault =>
              if fault.isRetryable then attempt id limit change (applied + 1) true attempts
              else .done ⟨.error fault, applied + 1, true⟩

/-- Revises the entity of an id, with at least one attempt, by a change that may
differ from one application to the next. -/
def reviseBy (id : String) (attempts : Nat) (change : Nat → α → Option α) :
    Program (StoreSignature α) (Revision α) :=
  attempt id (max attempts 1) change 0 false (max attempts 1)

/-- Revises the entity of an id, with at least one attempt. -/
def revise (id : String) (attempts : Nat) (change : α → Option α) :
    Program (StoreSignature α) (Revision α) :=
  reviseBy id attempts fun _ => change

end Revision

end FieldSurvey.Registry
