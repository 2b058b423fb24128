import FieldSurvey.Proofs.Registry.Contention

/-!
# No update is lost

In every session, whatever the order of the calls, the values of an entity come one from
the other: each revision that writes is computed from what the one before has stored.  The
revisions might as well have been made one after the other, in the order of their writes.
-/

namespace FieldSurvey.Registry

variable {ι α : Type} [DecidableEq ι]

/-! ## Where a client stands -/

/-- What a client that revises has done when it ends, and what it ends with. -/
inductive Upshot (client : ι) (trace : List (Exchange ι α)) (id : String) (limit : Nat)
    (change : Nat → α → Option α) : Revision α → Prop where
  | missing {applied : Nat} {changed : Bool} (counts : Counts client trace applied applied [])
      (bound : applied ≤ limit) :
      Upshot client trace id limit change ⟨.ok none, applied, changed⟩
  | unchanged {applied : Nat} {current : α} (counts : Counts client trace (applied + 1) applied [])
      (bound : applied + 1 ≤ limit) (same : change applied current = none) :
      Upshot client trace id limit change ⟨.ok (some current), applied + 1, false⟩
  | written {applied : Nat} {stored : α}
      (counts : Counts client trace (applied + 1) applied [stored]) (bound : applied + 1 ≤ limit) :
      Upshot client trace id limit change ⟨.ok (some stored), applied + 1, true⟩
  | exhausted {changed : Bool} (counts : Counts client trace limit limit []) :
      Upshot client trace id limit change
        ⟨.error (.retriesExhausted id limit), limit, changed⟩

theorem Upshot.concat {client : ι} {trace : List (Exchange ι α)} {id : String} {limit : Nat}
    {change : Nat → α → Option α} {revision : Revision α}
    (upshot : Upshot client trace id limit change revision) {exchange : Exchange ι α}
    (apart : exchange.client ≠ client) :
    Upshot client (trace ++ [exchange]) id limit change revision := by
  cases upshot with
  | missing counts bound => exact missing (counts.concat_of_ne apart) bound
  | unchanged counts bound same => exact unchanged (counts.concat_of_ne apart) bound same
  | written counts bound => exact written (counts.concat_of_ne apart) bound
  | exhausted counts => exact exhausted (counts.concat_of_ne apart)

variable [Entity α]

/-- Where a client stands, given its task, what is left of its program and the trace. -/
inductive Standing (client : ι) (trace : List (Exchange ι α))
    (program : Program (StoreSignature α) (Answer α)) : Client α → Prop where
  | adding {entity : α} (goesOn : program = (Client.add entity).program)
      (counts : Counts client trace 0 0 []) : Standing client trace program (.add entity)
  | added {entity : α} {reply : Except Fault α} (ended : program = .done (.added reply))
      (counts : Counts client trace 0 0 reply.toOption.toList) :
      Standing client trace program (.add entity)
  | attempting {id : String} {attempts applied left : Nat} {change : Nat → α → Option α}
      {changed : Bool}
      (goesOn : program = attempting id (max attempts 1) change applied changed (left + 1))
      (counts : Counts client trace applied applied [])
      (bound : applied + (left + 1) = max attempts 1) :
      Standing client trace program (.revise id attempts change)
  | storing {id : String} {attempts applied left : Nat} {change : Nat → α → Option α}
      {current entity : α}
      (goesOn : program = storing id (max attempts 1) change applied left entity)
      (counts : Counts client trace (applied + 1) applied [])
      (bound : applied + 1 + left = max attempts 1) (found : Found client id current trace)
      (changes : change applied current = some entity) :
      Standing client trace program (.revise id attempts change)
  | revised {id : String} {attempts : Nat} {change : Nat → α → Option α} {revision : Revision α}
      (ended : program = .done (.revised revision))
      (upshot : Upshot client trace id (max attempts 1) change revision) :
      Standing client trace program (.revise id attempts change)

namespace Standing

variable {client : ι} {trace : List (Exchange ι α)}

/-- A client stands where it stood when another one makes a call. -/
theorem concat {program : Program (StoreSignature α) (Answer α)} {task : Client α}
    (standing : Standing client trace program task) {exchange : Exchange ι α}
    (apart : exchange.client ≠ client) :
    Standing client (trace ++ [exchange]) program task := by
  cases standing with
  | adding goesOn counts => exact adding goesOn (counts.concat_of_ne apart)
  | added ended counts => exact added ended (counts.concat_of_ne apart)
  | attempting goesOn counts bound =>
      exact attempting goesOn (counts.concat_of_ne apart) bound
  | storing goesOn counts bound found changes =>
      exact storing goesOn (counts.concat_of_ne apart) bound (found.concat apart) changes
  | revised ended upshot => exact revised ended (upshot.concat apart)

/-- A client that may not try again has ended. -/
theorem of_attempting {id : String} {attempts applied left : Nat} {change : Nat → α → Option α}
    {changed : Bool} (counts : Counts client trace applied applied [])
    (bound : applied + left = max attempts 1) :
    Standing client trace (Registry.attempting id (max attempts 1) change applied changed left)
      (.revise id attempts change) := by
  cases left with
  | zero =>
      have spent : applied = max attempts 1 := bound
      subst spent
      exact revised (attempting_zero ..) (.exhausted counts)
  | succ left => exact attempting rfl counts bound

theorem start (client : ι) (task : Client α) :
    Standing client ([] : List (Exchange ι α)) task.program task := by
  cases task with
  | add entity => exact adding rfl (Counts.nil client)
  | revise id attempts change => exact of_attempting (Counts.nil client) (Nat.zero_add _)

/-- A client applies its change no more often than it may. -/
theorem applications_le {program : Program (StoreSignature α) (Answer α)} {id : String}
    {attempts : Nat} {change : Nat → α → Option α}
    (standing : Standing client trace program (.revise id attempts change)) :
    applications client trace ≤ max attempts 1 := by
  cases standing with
  | attempting _ counts bound =>
      rw [counts.applications_eq]
      omega
  | storing _ counts bound =>
      rw [counts.applications_eq]
      omega
  | revised _ upshot =>
      cases upshot with
      | missing counts bound => exact counts.applications_eq.trans_le bound
      | unchanged counts bound => exact counts.applications_eq.trans_le bound
      | written counts bound => exact counts.applications_eq.trans_le bound
      | exhausted counts => exact counts.applications_eq.le

end Standing

/-! ## What holds at every moment of a session -/

namespace Session

/-- The invariant of a session. -/
structure Sound (supply : Nat → String) (clients : ι → Client α) (session : Session ι α) :
    Prop where
  ledger : Ledger supply session.store session.trace
  explained : Explained clients session.trace
  justified : RefusalsJustified session.trace
  standing : ∀ client,
    Standing client session.trace (session.programs client) (clients client)

variable {supply : Nat → String} {clients : ι → Client α} {session : Session ι α} {client : ι}

theorem sound_start (supply : Nat → String) (clients : ι → Client α) :
    Sound supply clients (start clients) where
  ledger := Ledger.empty supply
  explained _ := .nothing
  justified := refusalsJustified_nil
  standing client := Standing.start client (clients client)

/-- A call is sound if it continues the lineages, was not refused without a reason, and
leaves its client standing somewhere. -/
theorem Sound.call [LawfulEntity α] (sound : Sound supply clients session)
    {request : StoreCall α} {next : request.Reply → Program (StoreSignature α) (Answer α)}
    (calls : session.programs client = .call request next)
    {reply : request.Reply} (replied : (Store.handler supply request session.store).1 = reply)
    (explained : Explained clients (session.trace ++ [⟨client, request, reply⟩]))
    (justified : RefusalsJustified (session.trace ++ [⟨client, request, reply⟩]))
    (standing : Standing client (session.trace ++ [⟨client, request, reply⟩]) (next reply)
      (clients client)) :
    Sound supply clients (session.step supply client) := by
  subst replied
  rw [step_of_call calls]
  constructor
  · exact sound.ledger.call client request
  · exact explained
  · exact justified
  · intro other
    by_cases same : other = client
    · subst same
      simpa only [Function.update_self] using standing
    · simp only [Function.update_of_ne same]
      exact (sound.standing other).concat (Ne.symm same)

/-- An entity is added if its id is free. -/
theorem Sound.step_adding [LawfulEntity α] (sound : Sound supply clients session) {entity : α}
    (task : clients client = .add entity)
    (goesOn : session.programs client = (Client.add entity).program)
    (counts : Counts client session.trace 0 0 []) :
    Sound supply clients (session.step supply client) := by
  cases there : session.store.get? (Entity.id entity) with
  | some stored =>
      have replied : (Store.handler supply (.add entity) session.store).1 =
          .error (.conflict (Entity.id entity)) := by
        simp [there]
      apply sound.call goesOn replied
      · exact sound.explained.concat_of_quiet counts.writesBy_eq rfl
      · exact sound.justified.concat_of_not rfl
      · rw [task]
        exact .added rfl counts.concat
  | none =>
      have replied : (Store.handler supply (.add entity) session.store).1 =
          .ok (session.store.write supply entity).1 := by
        simp [there]
      have first : writesTo (Entity.id entity) session.trace = [] := by
        have last := sound.ledger.get?_eq (Entity.id entity)
        rw [there] at last
        simpa using last.symm
      apply sound.call goesOn replied
      · apply sound.explained.concat counts.writesBy_eq rfl
        rw [Store.write_fst, LawfulEntity.id_inGeneration, first]
        exact .added _ task rfl
      · exact sound.justified.concat_of_not rfl
      · rw [task]
        exact .added rfl counts.concat

/-- Whoever reads an entity changes what was stored last. -/
theorem Sound.step_attempting [LawfulEntity α] (sound : Sound supply clients session)
    {id : String} {attempts applied left : Nat} {change : Nat → α → Option α} {changed : Bool}
    (task : clients client = .revise id attempts change)
    (goesOn : session.programs client =
      attempting id (max attempts 1) change applied changed (left + 1))
    (counts : Counts client session.trace applied applied [])
    (bound : applied + (left + 1) = max attempts 1) :
    Sound supply clients (session.step supply client) := by
  rw [attempting_succ] at goesOn
  have replied : (Store.handler supply (.get id) session.store).1 =
      .ok (session.store.get? id) := rfl
  apply sound.call goesOn replied
  · exact sound.explained.concat_of_quiet counts.writesBy_eq rfl
  · exact sound.justified.concat_of_not rfl
  · rw [task]
    cases there : session.store.get? id with
    | none => exact .revised rfl (.missing counts.concat (by omega))
    | some current =>
        have reads : Found client id current
            (session.trace ++ [⟨client, .get id, .ok (some current)⟩]) := by
          use session.trace, []
          constructor
          · rfl
          · constructor
            · simp
            · rw [← sound.ledger.get?_eq id, there]
        simp only [judging]
        cases changes : change applied current with
        | none => exact .revised rfl (.unchanged counts.concat (by omega) changes)
        | some entity => exact .storing rfl counts.concat (by omega) reads changes

/-- Whoever writes an entity back changes what was stored last, and is refused otherwise. -/
theorem Sound.step_storing [LawfulEntity α] (fresh : Function.Injective supply)
    (sound : Sound supply clients session) {id : String} {attempts applied left : Nat}
    {change : Nat → α → Option α} {current entity : α}
    (task : clients client = .revise id attempts change)
    (keeps : KeepsIdentity (change applied))
    (goesOn : session.programs client =
      storing id (max attempts 1) change applied left entity)
    (counts : Counts client session.trace (applied + 1) applied [])
    (bound : applied + 1 + left = max attempts 1) (found : Found client id current session.trace)
    (changes : change applied current = some entity) :
    Sound supply clients (session.step supply client) := by
  rcases keeps changes with ⟨sameId, sameGeneration⟩
  rcases found.mem_writesTo with ⟨reader, member⟩
  have idEq : Entity.id entity = id := sameId.trans (mem_writesTo.mp member).1
  rcases sound.ledger.get?_of_mem member with ⟨stored, there⟩
  have atId : session.store.get? (Entity.id entity) = some stored := idEq ▸ there
  by_cases accepted : Store.accepts stored entity = true
  · have unmoved : stored = current :=
      found.eq_of_accepts fresh sound.ledger there sameGeneration accepted
    subst unmoved
    rcases sound.ledger.writesTo_of_get? there with ⟨earlier, former, writes⟩
    have replied : (Store.handler supply (.update entity) session.store).1 =
        .ok (session.store.write supply entity).1 := by
      rw [Store.handler_update, Store.update_of_accepts atId accepted]
    apply sound.call goesOn replied
    · apply sound.explained.concat counts.writesBy_eq rfl
      rw [Store.write_fst, LawfulEntity.id_inGeneration, idEq, writes]
      apply Lineage.revised _ _ task counts.concat.applications_eq changes
      rw [← writes]
      exact (sound.explained id).concat counts.writesBy_eq
    · exact sound.justified.concat_of_not rfl
    · rw [task]
      exact .revised rfl (.written counts.concat (by omega))
  · have replied : (Store.handler supply (.update entity) session.store).1 =
        .error (.outOfDate (Entity.id entity)) := by
      rw [Store.handler_update, Store.update_of_not_accepts atId (Bool.eq_false_iff.mpr accepted)]
    apply sound.call goesOn replied
    · exact sound.explained.concat_of_quiet counts.writesBy_eq rfl
    · apply sound.justified.concat
      rintro _ _ fault same
      cases same
      exact idEq ▸ found.overtaken_of_not_accepts sound.ledger there sameGeneration accepted
    · rw [task]
      exact .of_attempting counts.concat bound

/-- Whatever call is made next, the session stays sound. -/
theorem Sound.step [LawfulEntity α] (fresh : Function.Injective supply)
    (keeps : ∀ client, (clients client).KeepsIdentity) (sound : Sound supply clients session)
    (client : ι) : Sound supply clients (session.step supply client) := by
  have standing := sound.standing client
  have keepsOwn := keeps client
  generalize task : clients client = work at standing keepsOwn
  cases standing with
  | adding goesOn counts => exact sound.step_adding task goesOn counts
  | added ended _ =>
      rw [step_of_done ended]
      exact sound
  | attempting goesOn counts bound => exact sound.step_attempting task goesOn counts bound
  | storing goesOn counts bound found changes =>
      exact sound.step_storing fresh task (keepsOwn _) goesOn counts bound found changes
  | revised ended _ =>
      rw [step_of_done ended]
      exact sound

theorem sound_play [LawfulEntity α] (fresh : Function.Injective supply)
    (keeps : ∀ client, (clients client).KeepsIdentity) (order : List ι) :
    Sound supply clients (play supply clients order) := by
  induction order using List.reverseRecOn with
  | nil => exact sound_start supply clients
  | append_singleton order client ih =>
      rw [play, List.foldl_append]
      exact Sound.step fresh keeps ih client

/-! ## The order of the writes -/

/-- No update was lost: the revisions that have written anything might as well have been
made one after the other, in the order of their writes. -/
structure Serialised (clients : ι → Client α) (session : Session ι α) : Prop where
  /-- the values under an id came one from the other -/
  lineage : ∀ id, Lineage clients (fun client => applications client session.trace) id
    (writesTo id session.trace)
  /-- the last one is what the store holds -/
  latest : ∀ id, session.store.get? id = (writesTo id session.trace).getLast?.map Prod.snd
  /-- who has written has ended with what it wrote, and wrote nothing else -/
  wrote : ∀ ⦃client id attempts change stored⦄, clients client = .revise id attempts change →
    stored ∈ writesBy client session.trace →
      writesBy client session.trace = [stored] ∧
      session.programs client = .done (.revised
        ⟨.ok (some stored), applications client session.trace, true⟩)
  /-- who has ended otherwise wrote nothing -/
  ended : ∀ ⦃client id attempts change revision⦄, clients client = .revise id attempts change →
    session.programs client = .done (.revised revision) →
      Upshot client session.trace id (max attempts 1) change revision
  /-- who has added an entity has ended with it -/
  added : ∀ ⦃client entity reply⦄, clients client = .add entity →
    session.programs client = .done (.added reply) →
      writesBy client session.trace = reply.toOption.toList
  /-- a change is applied no more often than it may be -/
  bounded : ∀ ⦃client id attempts change⦄, clients client = .revise id attempts change →
    applications client session.trace ≤ max attempts 1
  /-- an update is refused only if its entity was written since it was read -/
  refused : RefusalsJustified session.trace

end Session

namespace Standing

variable {client : ι} {trace : List (Exchange ι α)}
  {program : Program (StoreSignature α) (Answer α)} {id : String} {attempts : Nat}
  {change : Nat → α → Option α}

theorem upshot (standing : Standing client trace program (.revise id attempts change))
    {revision : Revision α} (ended : program = .done (.revised revision)) :
    Upshot client trace id (max attempts 1) change revision := by
  subst ended
  cases standing with
  | attempting goesOn counts bound =>
      rw [attempting_succ] at goesOn
      cases goesOn
  | storing goesOn counts bound found changes => cases goesOn
  | revised ended upshot =>
      cases ended
      exact upshot

theorem written_of_mem (standing : Standing client trace program (.revise id attempts change))
    {stored : α} (member : stored ∈ writesBy client trace) :
    writesBy client trace = [stored] ∧
      program = .done (.revised ⟨.ok (some stored), applications client trace, true⟩) := by
  cases standing with
  | attempting _ counts bound => simp [counts.writesBy_eq] at member
  | storing _ counts bound found changes => simp [counts.writesBy_eq] at member
  | revised ended upshot =>
      cases upshot with
      | missing counts bound => simp [counts.writesBy_eq] at member
      | unchanged counts bound same => simp [counts.writesBy_eq] at member
      | exhausted counts => simp [counts.writesBy_eq] at member
      | written counts bound =>
          rw [counts.writesBy_eq] at member
          cases List.mem_singleton.mp member
          constructor
          · exact counts.writesBy_eq
          · rw [ended, counts.applications_eq]

theorem writesBy_of_added {entity : α} {reply : Except Fault α}
    (standing : Standing client trace program (.add entity))
    (ended : program = .done (.added reply)) :
    writesBy client trace = reply.toOption.toList := by
  subst ended
  cases standing with
  | adding goesOn counts => cases goesOn
  | added ended counts =>
      cases ended
      exact counts.writesBy_eq

end Standing

namespace Session

/-- However the calls of the clients follow each other, no update is lost. -/
theorem no_update_is_lost [LawfulEntity α] (supply : Nat → String)
    (fresh : Function.Injective supply) (clients : ι → Client α)
    (keeps : ∀ client, (clients client).KeepsIdentity) (order : List ι) :
    Serialised clients (play supply clients order) := by
  have sound := sound_play fresh keeps order
  constructor
  · exact sound.explained
  · exact sound.ledger.get?_eq
  · intro client id attempts change stored task member
    exact (task ▸ sound.standing client).written_of_mem member
  · intro client id attempts change revision task ended
    exact (task ▸ sound.standing client).upshot ended
  · intro client entity reply task ended
    exact (task ▸ sound.standing client).writesBy_of_added ended
  · intro client id attempts change task
    exact (task ▸ sound.standing client).applications_le
  · exact sound.justified

/-- One client adds an endpoint, and the others rate its security, each time higher. -/
def raters : Nat → Client Model.Endpoint
  | 0 => .add { id := "uat1", applicationId := "uas1", endpointUrl := "opc.tcp://a" }
  | rater + 1 => .revise "uat1" rater fun count endpoint =>
      some { endpoint with securityLevel := some (Int32.ofNat (10 * rater + count)) }

/-- A name for every generation. -/
def marks (count : Nat) : String :=
  String.ofList (List.replicate count 'g')

theorem marks_injective : Function.Injective marks := by
  intro first second same
  have lengths := congrArg (fun mark => mark.toList.length) same
  simpa [marks] using lengths

theorem raters_keepIdentity (client : Nat) : (raters client).KeepsIdentity := by
  cases client with
  | zero => trivial
  | succ rater =>
      intro count current entity changes
      cases changes
      exact ⟨rfl, rfl⟩

/-- Of two raters that read at once the second is refused, and rates what the first has
stored. -/
theorem raters_lose_no_update :
    Function.Injective marks ∧ (∀ client, (raters client).KeepsIdentity) ∧
    Serialised raters (play marks raters [0, 3, 1, 1, 3, 3, 3]) ∧
    ((writesTo "uat1" (play marks raters [0, 3, 1, 1, 3, 3, 3]).trace).map Prod.fst = [0, 1, 3] ∧
      refusals 3 (play marks raters [0, 3, 1, 1, 3, 3, 3]).trace = 1) :=
  ⟨marks_injective, raters_keepIdentity,
    no_update_is_lost marks marks_injective raters raters_keepIdentity _, by decide⟩

end Session

end FieldSurvey.Registry
