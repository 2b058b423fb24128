import FieldSurvey.Proofs.Surveyor.Cancelling

/-!
# Batches that are handed over

The requests that finish are those whose batches were taken, and each is told how many endpoints
its batch had.  A batch is handed over until its request is gone, so that no two batches of a
request are taken; and the results of a request that was cancelled before are never handed over.
-/

namespace FieldSurvey.Surveyor

open Model (ProgressKind ResultRecord)
open Survey (Activity Belief Wait Wake endpointCount)

variable {surveyor : Surveyor} {ticket : Nat}

/-! ## Batches that are taken -/

/-- The batch that is taken in a turn, with the ticket of its request. -/
def Turn.taking? : Turn → Surveyor → Option (Nat × List ResultRecord)
  | resume _ (.answered answers), surveyor =>
    surveyor.handing.filter fun (_, batch) => (answers (.publish batch)).isOk
  | _, _ => none

/-- The batches that are taken in a sequence of turns. -/
def takings : List Turn → Surveyor → List (Nat × List ResultRecord)
  | [], _ => []
  | turn :: rest, surveyor => (turn.taking? surveyor).toList ++ takings rest (turn.act surveyor).1

/-- The request that a signal tells to have finished, and with how many endpoints. -/
def Signal.finishing? (signal : Signal) : Option (Nat × Nat) :=
  match signal.ticket, signal.event with
  | some ticket, .finished records => some (ticket, records)
  | _, _ => none

/-- The requests that finish, and with how many endpoints. -/
def finishings (signals : List Signal) : List (Nat × Nat) :=
  signals.filterMap Signal.finishing?

theorem finishings_append (front back : List Signal) :
    finishings (front ++ back) = finishings front ++ finishings back :=
  List.filterMap_append

theorem mem_finishings {signals : List Signal} {records : Nat} :
    (ticket, records) ∈ finishings signals ↔
      ∃ signal ∈ signals, signal.ticket = some ticket ∧ signal.event = .finished records := by
  have each : ∀ signal : Signal, signal.finishing? = some (ticket, records) ↔
      signal.ticket = some ticket ∧ signal.event = .finished records := by
    intro signal
    unfold Signal.finishing?
    split
    case h_1 its isFinished => simp [its, isFinished]
    case h_2 others =>
      constructor
      · intro none
        contradiction
      · rintro ⟨its, isFinished⟩
        exact absurd isFinished (others ticket records its)
  simp only [finishings, List.mem_filterMap, each]

/-- A request is told that it has finished if it is among those that finish. -/
theorem finished_mem_kindsOf {signals : List Signal} :
    .finished ∈ kindsOf (some ticket) signals ↔
      ∃ records, (ticket, records) ∈ finishings signals := by
  simp only [mem_finishings, kindsOf, List.mem_map, List.mem_filter, decide_eq_true_eq]
  constructor
  · rintro ⟨signal, ⟨member, its⟩, isFinished⟩
    obtain ⟨records, same⟩ := Survey.exists_of_kind_finished isFinished
    exact ⟨records, signal, member, its, same⟩
  · rintro ⟨records, signal, member, its, same⟩
    exact ⟨signal, ⟨member, its⟩, by rw [same]; rfl⟩

theorem Unfinished.finishings_eq_nil {signals : List Signal} (unfinished : Unfinished signals) :
    finishings signals = [] := by
  apply List.eq_nil_iff_forall_not_mem.mpr
  rintro ⟨ticket, records⟩ member
  obtain ⟨signal, inSignals, -, isFinished⟩ := mem_finishings.mp member
  exact unfinished signal inSignals (by rw [isFinished]; rfl)

theorem taking?_eq_some {turn : Turn} {batch : List ResultRecord}
    (taken : turn.taking? surveyor = some (ticket, batch)) :
    ∃ now answers, turn = .resume now (.answered answers) ∧
      surveyor.handing = some (ticket, batch) ∧ answers (.publish batch) = .ok () := by
  unfold Turn.taking? at taken
  split at taken
  case h_1 now answers =>
    obtain ⟨hands, isOk⟩ := Option.filter_eq_some_iff.mp taken
    refine ⟨now, answers, rfl, hands, ?_⟩
    cases receipt : answers (.publish batch) with
    | ok value => rfl
    | error reason =>
        simp only [receipt] at isOk
        contradiction
  case h_2 => contradiction

/-- A request whose batch is taken finishes in this turn with the endpoints of the batch. -/
theorem finishings_resume_taken (steady : Steady surveyor) {batch : List ResultRecord}
    (hands : surveyor.handing = some (ticket, batch)) (now : Moment)
    {answers : (wait : Wait) → wait.Answer} (taken : answers (.publish batch) = .ok ()) :
    finishings (surveyor.resume now (.answered answers)).2 = [(ticket, endpointCount batch)] := by
  obtain ⟨job, next, works⟩ := exists_of_handing hands
  obtain ⟨-, -, kinds, -⟩ := resume_taken steady.orderly steady.working hands now taken
  have candid := Survey.resume_candid now.timestamp (steady.aware.worker _ _ _ works)
    (.answered answers)
  rw [resume_of_running works, signals_settle, kindsOf_map_signal_self] at kinds
  rw [resume_of_running works, signals_settle]
  rcases candid with still | candid
  · rw [still] at kinds
    contradiction
  · have heard : Activity.heard (.answered answers) (.asking (.publish batch) next) =
        .handed (endpointCount batch) := by
      simp [Activity.heard, Belief.ofAnswer, taken]
    rw [heard] at candid
    rw [candid.events_of_finished kinds]
    rfl

/-- The worker waits on with its batch until it is told what became of it. -/
theorem resume_happened {batch : List ResultRecord}
    (hands : surveyor.handing = some (ticket, batch)) (now : Moment)
    (happening : Probe.Pool.Happening) :
    surveyor.resume now (.happened happening) = (surveyor, []) := by
  obtain ⟨job, next, works⟩ := exists_of_handing hands
  rw [resume_of_running works]
  exact settle_still works now.millis

/-- The request whose batch is taken in a turn, and the number of its endpoints. -/
def taken (turn : Turn) (surveyor : Surveyor) : List (Nat × Nat) :=
  (turn.taking? surveyor).toList.map fun (ticket, batch) => (ticket, endpointCount batch)

theorem finishings_resume (steady : Steady surveyor) (now : Moment) (wake : Wake) :
    finishings (surveyor.resume now wake).2 = taken (.resume now wake) surveyor := by
  cases hands : surveyor.handing with
  | none =>
      have nothing : Turn.taking? (.resume now wake) surveyor = none := by
        cases wake <;> simp [Turn.taking?, hands]
      rw [taken, nothing]
      exact (labours_resume steady.working now wake hands).unfinished.finishings_eq_nil
  | some handed =>
      obtain ⟨ticket, batch⟩ := handed
      cases wake with
      | happened happening =>
          rw [resume_happened hands]
          rfl
      | answered answers =>
          cases receipt : answers (.publish batch) with
          | ok value =>
              rw [finishings_resume_taken steady hands now receipt]
              simp [taken, Turn.taking?, hands, Option.filter_some, receipt, Except.isOk,
                Except.toBool]
          | error reason =>
              have labours := (resume_refused steady.orderly steady.working hands now receipt).1
              rw [labours.unfinished.finishings_eq_nil]
              simp [taken, Turn.taking?, hands, Option.filter_some, receipt, Except.isOk,
                Except.toBool]

/-- The requests that finish in a turn are those whose batches are taken in it. -/
theorem finishings_act (steady : Steady surveyor) (turn : Turn) :
    finishings (turn.act surveyor).2 = taken turn surveyor := by
  by_cases works : turn.isWork
  · cases turn with
    | take now =>
        exact (labours_take steady.orderly steady.working now).unfinished.finishings_eq_nil
    | resume now wake => exact finishings_resume steady now wake
    | _ => contradiction
  · have nothing : turn.taking? surveyor = none := by
      cases turn with
      | resume now wake => exact absurd rfl works
      | _ => rfl
    rw [taken, nothing]
    exact (aside_act turn works surveyor).unfinished.finishings_eq_nil

theorem finishings_play (steady : Steady surveyor) (turns : List Turn) :
    finishings (play turns surveyor).2 =
      (takings turns surveyor).map fun (ticket, batch) => (ticket, endpointCount batch) := by
  induction turns generalizing surveyor with
  | nil => rfl
  | cons turn rest ih =>
      have first := finishings_act steady turn
      have later := ih (steady.act turn)
      simp only [play, takings, finishings_append, first, later, List.map_append, taken]

/-- A request whose batch was taken is told that it has finished, and no other is. -/
theorem finished_mem_play (steady : Steady surveyor) (turns : List Turn) :
    .finished ∈ kindsOf (some ticket) (play turns surveyor).2 ↔
      ∃ batch, (ticket, batch) ∈ takings turns surveyor := by
  rw [finished_mem_kindsOf, finishings_play steady]
  simp

/-! ## Batches that are handed over -/

theorem gone_of_taking {turn : Turn} (steady : Steady surveyor) {batch : List ResultRecord}
    (taken : turn.taking? surveyor = some (ticket, batch)) :
    ticket ∈ surveyor.tickets ∧ ticket ∉ (turn.act surveyor).1.tickets := by
  obtain ⟨now, answers, rfl, hands, receipt⟩ := taking?_eq_some taken
  obtain ⟨-, -, -, gone⟩ := resume_taken steady.orderly steady.working hands now receipt
  exact ⟨mem_tickets_of_handing steady.orderly hands, gone⟩

/-- No batch is taken of a request that is gone. -/
theorem not_taken_of_gone (steady : Steady surveyor) (known : ticket < surveyor.accepted)
    (gone : ticket ∉ surveyor.tickets) (turns : List Turn) :
    ∀ batch, (ticket, batch) ∉ takings turns surveyor := by
  induction turns generalizing surveyor with
  | nil => exact fun _ => List.not_mem_nil
  | cons turn rest ih =>
      intro batch member
      rcases List.mem_append.mp member with first | later
      · exact gone (gone_of_taking steady (Option.mem_toList.mp first)).1
      · have keeps := keeps_act steady.orderly turn
        exact ih (steady.act turn) (Nat.lt_of_lt_of_le known keeps.accepted)
          (keeps.gone known gone).1 batch later

/-- One batch of a request is taken at most. -/
theorem takings_nodup (steady : Steady surveyor) (turns : List Turn) :
    ((takings turns surveyor).map Prod.fst).Nodup := by
  induction turns generalizing surveyor with
  | nil => exact List.nodup_nil
  | cons turn rest ih =>
      have later := ih (steady.act turn)
      cases first : turn.taking? surveyor with
      | none => simpa [takings, first] using later
      | some taking =>
          obtain ⟨ticket, batch⟩ := taking
          obtain ⟨pending, gone⟩ := gone_of_taking steady first
          have known := Nat.lt_of_lt_of_le (steady.orderly.below ticket pending)
            (keeps_act steady.orderly turn).accepted
          have once := not_taken_of_gone (steady.act turn) known gone rest
          simpa [takings, first] using ⟨once, later⟩

theorem Hands.mem_tickets (steady : Steady surveyor) (hands : surveyor.Hands ticket) :
    ticket ∈ surveyor.tickets := by
  obtain ⟨batch, handing⟩ := hands
  exact mem_tickets_of_handing steady.orderly handing

/-- A request whose results are handed over is so until it is gone. -/
theorem Hands.act (steady : Steady surveyor) (hands : surveyor.Hands ticket) (turn : Turn) :
    (turn.act surveyor).1.Hands ticket ∨ ticket ∉ (turn.act surveyor).1.tickets := by
  obtain ⟨batch, handing⟩ := hands
  by_cases works : turn.isWork
  · cases turn with
    | take now =>
        obtain ⟨job, next, running⟩ := exists_of_handing handing
        have still : surveyor.take now = (surveyor, []) := by simp only [take, running]
        left
        refine ⟨batch, ?_⟩
        rw [Turn.act, still]
        exact handing
    | resume now wake =>
        cases wake with
        | happened happening =>
            left
            refine ⟨batch, ?_⟩
            rw [Turn.act, resume_happened handing]
            exact handing
        | answered answers =>
            right
            cases receipt : answers (.publish batch) with
            | ok value =>
                obtain ⟨-, -, -, gone⟩ :=
                  resume_taken steady.orderly steady.working handing now receipt
                exact gone
            | error reason =>
                exact (resume_refused steady.orderly steady.working handing now receipt).2
    | _ => contradiction
  · left
    exact ⟨batch, handing_of_worker_eq (aside_act turn works surveyor).worker ▸ handing⟩

theorem Hands.play (steady : Steady surveyor) (hands : surveyor.Hands ticket)
    (turns : List Turn) :
    (play turns surveyor).1.Hands ticket ∨ ticket ∉ (play turns surveyor).1.tickets := by
  induction turns generalizing surveyor with
  | nil => exact Or.inl hands
  | cons turn rest ih =>
      have keeps := keeps_act steady.orderly turn
      have known := steady.orderly.below ticket (hands.mem_tickets steady)
      rcases hands.act steady turn with still | gone
      · exact ih (steady.act turn) still
      · right
        exact ((keeps_play keeps.orderly rest).gone
          (Nat.lt_of_lt_of_le known keeps.accepted) gone).1

theorem hands_of_mem_takings {turns : List Turn} {batch : List ResultRecord}
    (member : (ticket, batch) ∈ takings turns surveyor) :
    ∃ earlier later, turns = earlier ++ later ∧ (play earlier surveyor).1.Hands ticket := by
  induction turns generalizing surveyor with
  | nil => contradiction
  | cons turn rest ih =>
      rcases List.mem_append.mp member with first | later
      · obtain ⟨now, answers, -, handing, -⟩ := taking?_eq_some (Option.mem_toList.mp first)
        exact ⟨[], turn :: rest, rfl, batch, handing⟩
      · obtain ⟨earlier, more, rfl, hands⟩ := ih later
        exact ⟨turn :: earlier, more, rfl, hands⟩

/-- The results of a request that is cancelled before are never handed over, nor does the
request start. -/
theorem not_hands_of_cancelled (steady : Steady surveyor) (cancelled : surveyor.Cancelled ticket)
    (free : ¬surveyor.Hands ticket) (turns : List Turn) :
    ¬(play turns surveyor).1.Hands ticket ∧
      .started ∉ kindsOf (some ticket) (play turns surveyor).2 := by
  induction turns generalizing surveyor with
  | nil => exact ⟨free, List.not_mem_nil⟩
  | cons turn rest ih =>
      have fares := steady.fares turn cancelled.mem_tickets
      have keeps := keeps_act steady.orderly turn
      have onward : ¬(play rest (turn.act surveyor).1).1.Hands ticket ∧
          .started ∉ kindsOf (some ticket) (play rest (turn.act surveyor).1).2 := by
        rcases fares.outcome with stays | leaves
        · exact ih (steady.act turn) (stays.still cancelled) fun hands =>
            free (stays.free cancelled hands)
        · have known := Nat.lt_of_lt_of_le
            (steady.orderly.below ticket cancelled.mem_tickets) keeps.accepted
          obtain ⟨gone, silent⟩ := (keeps_play keeps.orderly rest).gone known leaves.gone
          constructor
          · intro hands
            exact gone (hands.mem_tickets ((steady.act turn).play rest))
          · rw [silent]
            exact List.not_mem_nil
      constructor
      · exact onward.1
      · simp only [play, kindsOf_append, List.mem_append, not_or]
        exact ⟨fares.unstarted cancelled, onward.2⟩

end FieldSurvey.Surveyor
