import FieldSurvey.Proofs.Registry.Store
import Mathlib.Data.List.Chain
import Mathlib.Logic.Function.Basic

/-!
# Sessions of several clients

In a session any number of clients add and revise entities of one store.  They take turns
in any order, and a turn is a single call of the store.  The trace of a session holds all
calls with their replies, in the order in which they were made.
-/

namespace FieldSurvey.Registry

/-- Somebody who adds an entity, or revises one by a change that may differ from one
application to the next. -/
inductive Client (α : Type) where
  | add (entity : α)
  | revise (id : String) (attempts : Nat) (change : Nat → α → Option α)

/-- What a client ends with. -/
inductive Answer (α : Type) where
  | added (reply : Except Fault α)
  | revised (revision : Revision α)

/-- A call with its reply. -/
structure Exchange (ι α : Type) where
  client : ι
  request : StoreCall α
  reply : request.Reply

/-- Clients at work on a store. -/
structure Session (ι α : Type) where
  store : Store α := {}
  programs : ι → Program (StoreSignature α) (Answer α)
  trace : List (Exchange ι α) := []

variable {ι α : Type}

/-! ## What is told by a trace -/

namespace Exchange

/-- The entity that was stored, if one was. -/
def written? : Exchange ι α → Option α
  | ⟨_, .add _, .ok stored⟩ => some stored
  | ⟨_, .update _, .ok stored⟩ => some stored
  | _ => none

/-- Whether an entity was found, which a change is then applied to. -/
def isFinding : Exchange ι α → Bool
  | ⟨_, .get _, .ok (some _)⟩ => true
  | _ => false

/-- Whether an update was refused. -/
def isRefusal : Exchange ι α → Bool
  | ⟨_, .update _, .error _⟩ => true
  | _ => false

end Exchange

/-- What was stored. -/
def written (trace : List (Exchange ι α)) : List α :=
  trace.filterMap Exchange.written?

/-- What was stored under an id, with those who did. -/
def writesTo [Entity α] (id : String) (trace : List (Exchange ι α)) : List (ι × α) :=
  trace.filterMap fun exchange =>
    exchange.written?.bind fun stored =>
      if Entity.id stored = id then some (exchange.client, stored) else none

section Own

variable [DecidableEq ι]

/-- The calls of a client. -/
def own (client : ι) (trace : List (Exchange ι α)) : List (Exchange ι α) :=
  trace.filter fun exchange => exchange.client = client

/-- What a client has stored. -/
def writesBy (client : ι) (trace : List (Exchange ι α)) : List α :=
  (own client trace).filterMap Exchange.written?

/-- How often a client has applied its change. -/
def applications (client : ι) (trace : List (Exchange ι α)) : Nat :=
  (own client trace).countP Exchange.isFinding

/-- How many updates of a client were refused. -/
def refusals (client : ι) (trace : List (Exchange ι α)) : Nat :=
  (own client trace).countP Exchange.isRefusal

end Own

section Writes

variable [Entity α]

@[simp]
theorem writesTo_append (id : String) (front back : List (Exchange ι α)) :
    writesTo id (front ++ back) = writesTo id front ++ writesTo id back :=
  List.filterMap_append

theorem writesTo_cons_of_quiet (id : String) {exchange : Exchange ι α}
    (quiet : exchange.written? = none) (rest : List (Exchange ι α)) :
    writesTo id (exchange :: rest) = writesTo id rest := by
  simp [writesTo, quiet]

theorem writesTo_concat (id : String) (trace : List (Exchange ι α)) {exchange : Exchange ι α}
    {stored : α} (wrote : exchange.written? = some stored) :
    writesTo id (trace ++ [exchange]) =
      if Entity.id stored = id then writesTo id trace ++ [(exchange.client, stored)]
      else writesTo id trace := by
  rw [writesTo_append]
  by_cases same : Entity.id stored = id
  · simp [writesTo, wrote, same]
  · simp [writesTo, wrote, same]

theorem writesTo_concat_of_quiet (id : String) (trace : List (Exchange ι α))
    {exchange : Exchange ι α} (quiet : exchange.written? = none) :
    writesTo id (trace ++ [exchange]) = writesTo id trace := by
  rw [writesTo_append, writesTo_cons_of_quiet id quiet]
  exact List.append_nil _

/-- What was stored under an id was stored by a call. -/
theorem mem_writesTo {id : String} {trace : List (Exchange ι α)} {client : ι} {stored : α} :
    (client, stored) ∈ writesTo id trace ↔
      Entity.id stored = id ∧
        ∃ exchange ∈ trace, exchange.client = client ∧ exchange.written? = some stored := by
  simp only [writesTo, List.mem_filterMap, Option.bind_eq_some_iff, Option.ite_none_right_eq_some,
    Option.some.injEq, Prod.mk.injEq]
  constructor
  · rintro ⟨exchange, member, value, wrote, sameId, sameClient, rfl⟩
    exact ⟨sameId, exchange, member, sameClient, wrote⟩
  · rintro ⟨sameId, exchange, member, sameClient, wrote⟩
    exact ⟨exchange, member, stored, wrote, sameId, sameClient, rfl⟩

end Writes

/-! ## What a client has done -/

section Counts

variable [DecidableEq ι]

/-- How often a client has applied its change, how many of its updates were refused, and
what it has stored. -/
structure Counts (client : ι) (trace : List (Exchange ι α)) (applied refused : Nat)
    (stored : List α) : Prop where
  applications_eq : applications client trace = applied
  refusals_eq : refusals client trace = refused
  writesBy_eq : writesBy client trace = stored

theorem own_concat (client : ι) (trace : List (Exchange ι α)) (exchange : Exchange ι α) :
    own client (trace ++ [exchange]) =
      own client trace ++ if exchange.client = client then [exchange] else [] := by
  by_cases same : exchange.client = client
  · simp [own, same]
  · simp [own, same]

theorem applications_concat_of_ne {client : ι} {exchange : Exchange ι α}
    (apart : exchange.client ≠ client) (trace : List (Exchange ι α)) :
    applications client (trace ++ [exchange]) = applications client trace := by
  simp [applications, own_concat, apart]

namespace Counts

variable {client : ι} {trace : List (Exchange ι α)} {applied refused : Nat} {stored : List α}

theorem nil (client : ι) : Counts client ([] : List (Exchange ι α)) 0 0 [] :=
  ⟨rfl, rfl, rfl⟩

/-- The calls of the others do not count. -/
theorem concat_of_ne (counts : Counts client trace applied refused stored)
    {exchange : Exchange ι α} (apart : exchange.client ≠ client) :
    Counts client (trace ++ [exchange]) applied refused stored := by
  constructor
  · rw [applications_concat_of_ne apart, counts.applications_eq]
  · rw [← counts.refusals_eq]
    simp [refusals, own_concat, apart]
  · rw [← counts.writesBy_eq]
    simp [writesBy, own_concat, apart]

theorem concat (counts : Counts client trace applied refused stored) {request : StoreCall α}
    {reply : request.Reply} :
    Counts client (trace ++ [⟨client, request, reply⟩])
      (applied + [Exchange.mk client request reply].countP Exchange.isFinding)
      (refused + [Exchange.mk client request reply].countP Exchange.isRefusal)
      (stored ++ (Exchange.written? ⟨client, request, reply⟩).toList) := by
  constructor
  · rw [← counts.applications_eq]
    simp [applications, own_concat]
  · rw [← counts.refusals_eq]
    simp [refusals, own_concat]
  · rw [← counts.writesBy_eq, writesBy, own_concat, if_pos rfl, List.filterMap_append]
    cases wrote : Exchange.written? ⟨client, request, reply⟩ with
    | none => simp [wrote, writesBy]
    | some value => simp [wrote, writesBy]

end Counts

end Counts

/-! ## Turns -/

variable [Entity α]

/-- What a client does. -/
def Client.program : Client α → Program (StoreSignature α) (Answer α)
  | add entity => .call (.add entity) fun reply => .done (.added reply)
  | revise id attempts change =>
    (Revision.reviseBy id attempts change).bind fun revision => .done (.revised revision)

/-- The call that a program makes next, with the reply of a store. -/
def exchanges {β : Type} (supply : Nat → String) (client : ι) (store : Store α) :
    Program (StoreSignature α) β → List (Exchange ι α)
  | .done _ => []
  | .call request _ => [⟨client, request, (Store.handler supply request store).1⟩]

namespace Session

/-- A session before the first call. -/
def start (clients : ι → Client α) : Session ι α where
  programs client := (clients client).program

/-- A client makes its next call, if it has not ended. -/
def step [DecidableEq ι] (supply : Nat → String) (session : Session ι α) (client : ι) :
    Session ι α :=
  let program := session.programs client
  let answered := program.step (Store.handler supply) session.store
  { store := answered.2
    programs := Function.update session.programs client answered.1
    trace := session.trace ++ exchanges supply client session.store program }

/-- The clients take turns in a given order. -/
def play [DecidableEq ι] (supply : Nat → String) (clients : ι → Client α) (order : List ι) :
    Session ι α :=
  order.foldl (step supply) (start clients)

variable [DecidableEq ι] {supply : Nat → String} {session : Session ι α} {client : ι}

theorem step_of_done {answer : Answer α} (ended : session.programs client = .done answer) :
    session.step supply client = session := by
  have same : Function.update session.programs client (.done answer) = session.programs := by
    rw [← ended, Function.update_eq_self]
  simp only [step, ended, Program.step, exchanges, List.append_nil, same]

theorem step_of_call {request : StoreCall α}
    {next : request.Reply → Program (StoreSignature α) (Answer α)}
    (calls : session.programs client = .call request next) :
    session.step supply client =
      { store := (Store.handler supply request session.store).2
        programs := Function.update session.programs client
          (next (Store.handler supply request session.store).1)
        trace := session.trace ++
          [⟨client, request, (Store.handler supply request session.store).1⟩] } := by
  simp only [step, calls, Program.step, exchanges]

end Session

/-! ## What a call does to a store -/

/-- A call either stores an entity in a new generation or leaves the store as it is. -/
theorem handler_cases (supply : Nat → String) (store : Store α) (client : ι)
    (request : StoreCall α) :
    (∃ entity, Exchange.written? ⟨client, request, (Store.handler supply request store).1⟩ =
        some (store.write supply entity).1 ∧
      (Store.handler supply request store).2 = (store.write supply entity).2) ∨
    (Exchange.written? ⟨client, request, (Store.handler supply request store).1⟩ = none ∧
      (Store.handler supply request store).2 = store) := by
  cases request with
  | get id => exact Or.inr ⟨rfl, rfl⟩
  | listBy discovererId => exact Or.inr ⟨rfl, rfl⟩
  | list => exact Or.inr ⟨rfl, rfl⟩
  | add entity =>
      rw [Store.handler_add]
      rcases Store.add_cases supply store entity with ⟨-, carriedOut⟩ | refused
      · rw [carriedOut]
        exact Or.inl ⟨entity, rfl, rfl⟩
      · rw [refused]
        exact Or.inr ⟨rfl, rfl⟩
  | update entity =>
      rw [Store.handler_update]
      rcases Store.update_cases supply store entity with carriedOut | refused
      · rw [carriedOut]
        exact Or.inl ⟨entity, rfl, rfl⟩
      · rw [refused]
        exact Or.inr ⟨rfl, rfl⟩

end FieldSurvey.Registry
