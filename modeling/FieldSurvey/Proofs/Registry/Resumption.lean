import FieldSurvey.Proofs.Registry.Persistence
import FieldSurvey.Proofs.Registry.Writing

/-!
# What is left of a program

A program that was begun with a registry of its own goes on from what its calls have left, if
the generations that they have written are named as they were.  Later writes may be named in any
way.  The names are told apart by the numbers of the writes, those of endpoints counted from
beyond those of applications.
-/

namespace FieldSurvey.Registry

/-! ## Names of generations -/

namespace Store

variable {α : Type} [Entity α]

theorem writes_handler (supply : Nat → String) (request : StoreCall α) (store : Store α) :
    (handler supply request store).2.writes = store.writes ∨
      (handler supply request store).2.writes = store.writes + 1 := by
  rcases answer_cases supply store none request with same | ⟨entity, wrote, -⟩
  · exact Or.inl (congrArg Store.writes same)
  · exact Or.inr (congrArg Store.writes wrote)

/-- A call is answered alike if what it writes, if it writes anything, is named alike. -/
theorem handler_congr {first second : Nat → String} {request : StoreCall α} {store : Store α}
    (same : (handler second request store).2.writes = store.writes + 1 →
      first store.writes = second store.writes) :
    handler first request store = handler second request store := by
  have write_eq : first store.writes = second store.writes → ∀ entity,
      store.write first entity = store.write second entity := by
    intro named entity
    simp only [write, named]
  cases request with
  | get id => rfl
  | listBy discovererId => rfl
  | list => rfl
  | add entity =>
      cases present : store.get? (Entity.id entity) with
      | some stored => rw [handler_add, handler_add, add_of_taken present, add_of_taken present]
      | none =>
          simp only [handler_add, add_of_free present] at same ⊢
          rw [write_eq (same rfl)]
  | update entity =>
      simp only [handler, update] at same ⊢
      split
      · rename_i stored present
        simp only [present] at same
        split
        · rename_i accepted
          rw [if_pos accepted] at same
          rw [write_eq (same rfl)]
        · rfl
      · rename_i absent
        simp only [absent] at same
        rw [write_eq (same rfl)]

end Store

/-- The number of writes so far to the store that a call is made to. -/
def Contents.writes (contents : Contents) : Call → Nat
  | .application _ => contents.applications.writes
  | .endpoint _ => contents.endpoints.writes

/-- The registry before its first write.  The writes of endpoints are counted from a bound on, so
that no number is used in both stores as long as fewer applications are written. -/
def Contents.countedFrom (bound : Nat) (contents : Contents) : Contents where
  applications := { contents.applications with writes := 0 }
  endpoints := { contents.endpoints with writes := bound }

/-- Whether a number stands for a write that was made since. -/
def Contents.HasCounted (bound : Nat) (contents : Contents) (number : Nat) : Prop :=
  number < contents.applications.writes ∨ bound ≤ number ∧ number < contents.endpoints.writes

theorem Contents.HasCounted.handler {bound number : Nat} {part : Contents}
    (counted : part.HasCounted bound number) (names : Nat → String) (request : Call) :
    (Contents.handler names request part).2.HasCounted bound number := by
  cases request with
  | application request =>
      have more := Store.writes_handler names request part.applications
      simp only [Contents.HasCounted, Contents.handler_application] at counted ⊢
      omega
  | endpoint request =>
      have more := Store.writes_handler names request part.endpoints
      simp only [Contents.HasCounted, Contents.handler_endpoint] at counted ⊢
      omega

theorem Contents.handler_congr {bound : Nat} {first second : Nat → String} {request : Call}
    {part : Contents} (late : bound ≤ part.endpoints.writes)
    (same : ∀ number, (Contents.handler second request part).2.HasCounted bound number →
      first number = second number) :
    Contents.handler first request part = Contents.handler second request part := by
  cases request with
  | application request =>
      have alike : Store.handler first request part.applications =
          Store.handler second request part.applications := by
        apply Store.handler_congr
        intro wrote
        apply same
        simp only [Contents.HasCounted, Contents.handler_application, wrote]
        omega
      rw [Contents.handler_application, Contents.handler_application, alike]
  | endpoint request =>
      have alike : Store.handler first request part.endpoints =
          Store.handler second request part.endpoints := by
        apply Store.handler_congr
        intro wrote
        apply same
        simp only [Contents.HasCounted, Contents.handler_endpoint, wrote]
        omega
      rw [Contents.handler_endpoint, Contents.handler_endpoint, alike]

/-! ## What is left of a program -/

variable {β : Type}

/-- A program that was begun with a registry of one's own, and what is left of it and of the
registry, once names are given to the writes that were made.  No more applications were written
than turns were taken. -/
structure Resumes (program : Program Calls β) (before : Contents) (bound turns : Nat)
    (rest : Program Calls β) (part : Contents) (names : Nat → String) : Prop where
  early : part.applications.writes ≤ turns
  late : bound ≤ part.endpoints.writes
  run_eq : ∀ supply : Nat → String,
    (∀ number, part.HasCounted bound number → supply number = names number) →
      program.run (Contents.handler supply) (before.countedFrom bound) =
        rest.run (Contents.handler supply) part

namespace Resumes

variable {program rest : Program Calls β} {before part : Contents} {bound turns : Nat}
  {names : Nat → String}

theorem start (program : Program Calls β) (before : Contents) (bound : Nat)
    (names : Nat → String) :
    Resumes program before bound 0 program (before.countedFrom bound) names :=
  ⟨Nat.le_refl 0, Nat.le_refl bound, fun _ _ => rfl⟩

theorem wait (resumes : Resumes program before bound turns rest part names) :
    Resumes program before bound (turns + 1) rest part names :=
  ⟨Nat.le_succ_of_le resumes.early, resumes.late, resumes.run_eq⟩

/-- The number of the next write has not been used. -/
theorem ne_of_hasCounted (resumes : Resumes program before bound turns rest part names)
    (room : turns < bound) (request : Call) {number : Nat}
    (counted : part.HasCounted bound number) : number ≠ part.writes request := by
  have early := resumes.early
  have late := resumes.late
  cases request <;> simp only [Contents.HasCounted, Contents.writes] at counted ⊢ <;> omega

/-- The next call is made, and what it writes is named. -/
theorem call {request : Call} {next : Call.Reply request → Program Calls β}
    (resumes : Resumes program before bound turns (.call request next) part names)
    (room : turns < bound) {named : Nat → String}
    (same : ∀ number, number ≠ part.writes request → named number = names number) :
    Resumes program before bound (turns + 1) (next (Contents.handler named request part).1)
      (Contents.handler named request part).2 named where
  early := by
    have early := resumes.early
    cases request with
    | application request =>
        have more := Store.writes_handler named request part.applications
        simp only [Contents.handler_application]
        omega
    | endpoint request => exact Nat.le_succ_of_le early
  late := by
    have late := resumes.late
    cases request with
    | application request => exact late
    | endpoint request =>
        have more := Store.writes_handler named request part.endpoints
        simp only [Contents.handler_endpoint]
        omega
  run_eq supply agrees := by
    -- the names of earlier writes are the same, as the new one has a number of its own
    have before_eq := resumes.run_eq supply fun number counted =>
      (agrees number (counted.handler named request)).trans
        (same number (resumes.ne_of_hasCounted room request counted))
    rw [before_eq, Program.run_call, Contents.handler_congr resumes.late agrees]

end Resumes

end FieldSurvey.Registry
