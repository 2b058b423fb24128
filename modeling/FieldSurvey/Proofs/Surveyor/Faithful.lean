import FieldSurvey.Proofs.Surveyor.Progress
import FieldSurvey.Proofs.Surveyor.Publishing

/-!
# Faithful endings

What a request is told at its end agrees with what became of it.  It has finished if its batch
was taken, and was told so with the number of endpoints in the batch.  If it is cancelled before
its results are handed over, they never are and it ends as cancelled; no other request is told
that it was cancelled, and no cancelled request is told that it failed.  A request does come to
such an end as long as the worker gets what it waits for.
-/

namespace FieldSurvey.Surveyor

open Model (ProgressKind)
open Survey (endpointCount)

variable {surveyor : Surveyor} {ticket : Nat}

/-! ## How requests end -/

/-- A request that is still pending after a sequence of turns. -/
structure Lasts (surveyor : Surveyor) (turns : List Turn) (ticket : Nat) : Prop where
  pending : ticket ∈ (play turns surveyor).1.tickets
  quiet : ∀ kind ∈ kindsOf (some ticket) (play turns surveyor).2, ¬kind.isTerminal

/-- A request that has left in a sequence of turns. -/
structure HasLeft (surveyor : Surveyor) (turns : List Turn) (ticket : Nat) : Prop where
  gone : ticket ∉ (play turns surveyor).1.tickets
  told : ∃ kinds last, kindsOf (some ticket) (play turns surveyor).2 = kinds ++ [last] ∧
    (∀ kind ∈ kinds, ¬kind.isTerminal) ∧ last.isTerminal
  cancelled : .cancelled ∈ kindsOf (some ticket) (play turns surveyor).2 →
    ∃ earlier later, turns = earlier ++ later ∧ (play earlier surveyor).1.Cancelled ticket
  failed : .error ∈ kindsOf (some ticket) (play turns surveyor).2 → ¬surveyor.Cancelled ticket

section Cons

variable {turn : Turn} {rest : List Turn}

theorem Lasts.cons (lasts : Lasts (turn.act surveyor).1 rest ticket)
    (quiet : ∀ kind ∈ kindsOf (some ticket) (turn.act surveyor).2, ¬kind.isTerminal) :
    Lasts surveyor (turn :: rest) ticket where
  pending := lasts.pending
  quiet := by
    intro kind member
    simp only [play, kindsOf_append, List.mem_append] at member
    rcases member with first | later
    · exact quiet kind first
    · exact lasts.quiet kind later

/-- Of a request that leaves later, nothing that ends it is told before. -/
theorem HasLeft.cons (left : HasLeft (turn.act surveyor).1 rest ticket)
    (quiet : ∀ kind ∈ kindsOf (some ticket) (turn.act surveyor).2, ¬kind.isTerminal)
    (still : surveyor.Cancelled ticket → (turn.act surveyor).1.Cancelled ticket) :
    HasLeft surveyor (turn :: rest) ticket where
  gone := left.gone
  told := by
    obtain ⟨kinds, last, told, quietLater, ends⟩ := left.told
    refine ⟨kindsOf (some ticket) (turn.act surveyor).2 ++ kinds, last, ?_, ?_, ends⟩
    · simp only [play, kindsOf_append, told, List.append_assoc]
    · intro kind member
      rcases List.mem_append.mp member with first | later
      · exact quiet kind first
      · exact quietLater kind later
  cancelled := by
    intro member
    simp only [play, kindsOf_append, List.mem_append] at member
    rcases member with first | later
    · exact absurd rfl (quiet _ first)
    · obtain ⟨earlier, more, rfl, wasCancelled⟩ := left.cancelled later
      exact ⟨turn :: earlier, more, rfl, wasCancelled⟩
  failed := by
    intro member
    simp only [play, kindsOf_append, List.mem_append] at member
    rcases member with first | later
    · exact absurd rfl (quiet _ first)
    · exact fun cancelled => left.failed later (still cancelled)

/-- Once a request has left nothing more is told of it. -/
theorem Leaves.hasLeft (leaves : Leaves surveyor ticket (turn.act surveyor))
    (steady : Steady surveyor) (pending : ticket ∈ surveyor.tickets) :
    HasLeft surveyor (turn :: rest) ticket := by
  have keeps := keeps_act steady.orderly turn
  have known := Nat.lt_of_lt_of_le (steady.orderly.below ticket pending) keeps.accepted
  obtain ⟨gone, silent⟩ := (keeps_play keeps.orderly rest).gone known leaves.gone
  have told : kindsOf (some ticket) (play (turn :: rest) surveyor).2 =
      kindsOf (some ticket) (turn.act surveyor).2 := by
    simp only [play, kindsOf_append, silent, List.append_nil]
  constructor
  · exact gone
  · rw [told]
    exact leaves.told
  · rw [told]
    exact fun member => ⟨[], turn :: rest, rfl, leaves.cancelled member⟩
  · rw [told]
    exact leaves.failed

end Cons

/-- Nothing that ends a request is told in the turn in which it is accepted, and nothing at all
before. -/
theorem quiet_of_fresh (steady : Steady surveyor) (turn : Turn)
    (fresh : surveyor.accepted ≤ ticket) :
    ∀ kind ∈ kindsOf (some ticket) (turn.act surveyor).2, ¬kind.isTerminal := by
  intro kind member
  by_cases works : turn.isWork
  · have same : (turn.act surveyor).1.accepted = surveyor.accepted := by
      cases turn with
      | take now => exact accepted_take steady.orderly now
      | resume now wake => exact accepted_resume surveyor now wake
      | _ => contradiction
    rw [(keeps_act steady.orderly turn).fresh ticket (same ▸ fresh)] at member
    contradiction
  · rw [(spares_act turn works surveyor).kind_of_mem member]
    exact Bool.false_ne_true

/-- A request that is accepted is pending until it is told of its ending. -/
theorem lasts_or_hasLeft (steady : Steady surveyor) (turns : List Turn)
    (known : ticket ∈ surveyor.tickets ∨ surveyor.accepted ≤ ticket)
    (below : ticket < (play turns surveyor).1.accepted) :
    Lasts surveyor turns ticket ∨ HasLeft surveyor turns ticket := by
  induction turns generalizing surveyor with
  | nil =>
      rcases known with pending | fresh
      · exact Or.inl ⟨pending, fun _ member => absurd member List.not_mem_nil⟩
      · exact absurd below (Nat.not_lt.mpr fresh)
  | cons turn rest ih =>
      rcases known with pending | fresh
      · rcases (steady.fares turn pending).outcome with stays | leaves
        · rcases ih (steady.act turn) (Or.inl stays.pending) below with lasts | left
          · exact Or.inl (lasts.cons stays.quiet)
          · exact Or.inr (left.cons stays.quiet stays.still)
        · exact Or.inr (leaves.hasLeft steady pending)
      · have quiet := quiet_of_fresh steady turn fresh
        have still : surveyor.Cancelled ticket → (turn.act surveyor).1.Cancelled ticket := by
          intro cancelled
          exact absurd (steady.orderly.below ticket cancelled.mem_tickets) (Nat.not_lt.mpr fresh)
        have soon : ticket ∈ (turn.act surveyor).1.tickets ∨
            (turn.act surveyor).1.accepted ≤ ticket := by
          rcases handsOut_act steady.orderly turn with same | ⟨more, member⟩
          · exact Or.inr (same ▸ fresh)
          · rcases Nat.eq_or_lt_of_le fresh with rfl | later
            · exact Or.inl member
            · exact Or.inr (more ▸ later)
        rcases ih (steady.act turn) soon below with lasts | left
        · exact Or.inl (lasts.cons quiet)
        · exact Or.inr (left.cons quiet still)

/-! ## Cancelling by id -/

/-- What comes of cancelling the requests of an id. -/
structure Cancels (id : String) (surveyor : Surveyor) : Prop where
  /-- the answer is how many requests of the id are pending -/
  count : (surveyor.cancel id).1 =
    (surveyor.pending.filter fun entry => entry.job.plan.request.id = some id).length
  /-- these are cancelled, and no others -/
  cancelled : ∀ ticket, (surveyor.cancel id).2.Cancelled ticket ↔
    surveyor.Cancelled ticket ∨
      ∃ entry ∈ surveyor.pending, entry.ticket = ticket ∧ entry.job.plan.request.id = some id
  /-- all stay pending as they were submitted -/
  submitted : (surveyor.cancel id).2.submitted = surveyor.submitted
  /-- and nothing else changes -/
  others : { (surveyor.cancel id).2 with pending := surveyor.pending } = surveyor

theorem hasId_iff {id : String} {job : Job} : hasId id job ↔ job.plan.request.id = some id := by
  simp [hasId]

theorem cancels (id : String) (surveyor : Surveyor) : Cancels id surveyor where
  count := by simp [cancel, hasId, List.countP_eq_length_filter, beq_eq_decide]
  cancelled ticket := by
    rw [cancel, cancelled_cancelWhere]
    constructor
    · rintro ⟨entry, member, same, isCancelled | picked⟩
      · exact Or.inl ⟨entry, member, same, isCancelled⟩
      · exact Or.inr ⟨entry, member, same, hasId_iff.mp picked⟩
    · rintro (⟨entry, member, same, isCancelled⟩ | ⟨entry, member, same, its⟩)
      · exact ⟨entry, member, same, Or.inl isCancelled⟩
      · exact ⟨entry, member, same, Or.inr (hasId_iff.mpr its)⟩
  submitted := submitted_cancelWhere (hasId id) surveyor
  others := rfl

/-! ## Whole runs -/

/-- What becomes of a request that is cancelled before its results are handed over. -/
structure Dismissed (surveyor : Surveyor) (earlier later : List Turn) (ticket : Nat) : Prop where
  unhanded : ∀ front back, earlier ++ later = front ++ back →
    ¬(play front surveyor).1.Hands ticket
  ended : ticket ∉ (play (earlier ++ later) surveyor).1.tickets →
    (kindsOf (some ticket) (play (earlier ++ later) surveyor).2).getLast? = some .cancelled
  unstarted : .started ∉ kindsOf (some ticket) (play earlier surveyor).2 →
    .started ∉ kindsOf (some ticket) (play (earlier ++ later) surveyor).2

/-- What requests are told of cancellations and results in a sequence of turns. -/
structure Faithful (surveyor : Surveyor) (turns : List Turn) : Prop where
  /-- requests finish as their batches are taken, with as many endpoints as these have -/
  finished : finishings (play turns surveyor).2 =
    (takings turns surveyor).map fun (ticket, batch) => (ticket, endpointCount batch)
  /-- of no request two batches are taken -/
  once : ((takings turns surveyor).map Prod.fst).Nodup
  /-- a request ends as finished if and only if a batch of it was taken -/
  ended : ∀ ticket, (kindsOf (some ticket) (play turns surveyor).2).getLast? = some .finished ↔
    ∃ batch, (ticket, batch) ∈ takings turns surveyor
  /-- a request that is cancelled before its results are handed over is dismissed -/
  dismissed : ∀ earlier later, turns = earlier ++ later → ∀ ticket,
    (play earlier surveyor).1.Cancelled ticket → ¬(play earlier surveyor).1.Hands ticket →
      Dismissed surveyor earlier later ticket
  /-- a request that is ever cancelled does not fail -/
  failed : ∀ earlier later, turns = earlier ++ later → ∀ ticket,
    (play earlier surveyor).1.Cancelled ticket →
      .error ∉ kindsOf (some ticket) (play turns surveyor).2
  /-- a request is told that it was cancelled only if it was -/
  cancelled : ∀ ticket, .cancelled ∈ kindsOf (some ticket) (play turns surveyor).2 →
    ∃ earlier later, turns = earlier ++ later ∧ (play earlier surveyor).1.Cancelled ticket
  /-- and those of an id can be cancelled at any time -/
  cancels : ∀ id, Cancels id (play turns surveyor).1

/-- How a request that is pending at a moment ends in an endless sequence of turns. -/
structure Ends (surveyor : Surveyor) (turns : Nat → Turn) (moment ticket later : Nat) : Prop where
  since : moment ≤ later
  gone : ticket ∉ (play (opening turns later) surveyor).1.tickets
  told : ∃ kind, kind.isTerminal ∧
    (kindsOf (some ticket) (play (opening turns later) surveyor).2).getLast? = some kind
  /-- one that is cancelled before its results are handed over ends as cancelled -/
  dismissed : (play (opening turns moment) surveyor).1.Cancelled ticket →
    ¬(play (opening turns moment) surveyor).1.Hands ticket →
      (kindsOf (some ticket) (play (opening turns later) surveyor).2).getLast? = some .cancelled

theorem terminal_cases {kind : ProgressKind} (ends : kind.isTerminal) :
    kind = .finished ∨ kind = .cancelled ∨ kind = .error := by
  cases kind <;> first | contradiction | simp

/-- What is told of a request that has left, last of all. -/
theorem HasLeft.getLast?_of_mem {turns : List Turn} (left : HasLeft surveyor turns ticket)
    {kind : ProgressKind} (ends : kind.isTerminal)
    (member : kind ∈ kindsOf (some ticket) (play turns surveyor).2) :
    (kindsOf (some ticket) (play turns surveyor).2).getLast? = some kind := by
  obtain ⟨kinds, last, told, quiet, -⟩ := left.told
  rw [told] at member ⊢
  rcases List.mem_append.mp member with early | isLast
  · exact absurd ends (quiet kind early)
  · rw [List.mem_singleton.mp isLast]
    simp

section FromStart

variable {turns : List Turn}

/-- Every request that is ever told of was accepted. -/
theorem lasts_or_hasLeft_of_mem (steady : Steady surveyor) (fromZero : surveyor.accepted = 0)
    {kind : ProgressKind} (member : kind ∈ kindsOf (some ticket) (play turns surveyor).2) :
    Lasts surveyor turns ticket ∨ HasLeft surveyor turns ticket := by
  apply lasts_or_hasLeft steady turns
  · rw [fromZero]
    exact Or.inr (Nat.zero_le ticket)
  · by_contra beyond
    rw [(keeps_play steady.orderly turns).fresh ticket (Nat.not_lt.mp beyond)] at member
    contradiction

theorem quiet_of_pending (steady : Steady surveyor) (fromZero : surveyor.accepted = 0)
    (pending : ticket ∈ (play turns surveyor).1.tickets) :
    ∀ kind ∈ kindsOf (some ticket) (play turns surveyor).2, ¬kind.isTerminal := by
  intro kind member
  rcases lasts_or_hasLeft_of_mem steady fromZero member with lasts | left
  · exact lasts.quiet kind member
  · exact absurd pending left.gone

theorem dismissed_of_cancelled (steady : Steady surveyor) (earlier later : List Turn)
    (cancelled : (play earlier surveyor).1.Cancelled ticket)
    (free : ¬(play earlier surveyor).1.Hands ticket) :
    Dismissed surveyor earlier later ticket := by
  have middle := steady.play earlier
  have pending := cancelled.mem_tickets
  constructor
  · intro front back split hands
    rcases List.append_eq_append_iff.mp split with ⟨more, rfl, -⟩ | ⟨more, rfl, -⟩
    · rw [play_append] at hands
      exact (not_hands_of_cancelled middle cancelled free more).1 hands
    · rw [play_append] at pending free
      rcases hands.play (steady.play front) more with still | gone
      · exact free still
      · exact gone pending
  · intro gone
    rw [play_append] at gone ⊢
    have below := Nat.lt_of_lt_of_le (middle.orderly.below ticket pending)
      (keeps_play middle.orderly later).accepted
    rcases lasts_or_hasLeft middle later (Or.inl pending) below with lasts | left
    · exact absurd lasts.pending gone
    · obtain ⟨kinds, last, told, -, ends⟩ := left.told
      have isLast : last ∈ kindsOf (some ticket) (play later (play earlier surveyor).1).2 := by
        rw [told]
        exact List.mem_append_right _ (List.mem_singleton_self last)
      rcases terminal_cases ends with rfl | rfl | rfl
      · obtain ⟨batch, taken⟩ := (finished_mem_play middle later).mp isLast
        obtain ⟨front, back, rfl, hands⟩ := hands_of_mem_takings taken
        exact absurd hands (not_hands_of_cancelled middle cancelled free front).1
      · rw [kindsOf_append, told, ← List.append_assoc]
        exact List.getLast?_concat
      · exact absurd cancelled (left.failed isLast)
  · intro unstarted
    rw [play_append, kindsOf_append, List.mem_append, not_or]
    exact ⟨unstarted, (not_hands_of_cancelled middle cancelled free later).2⟩

theorem not_failed_of_cancelled (steady : Steady surveyor) (fromZero : surveyor.accepted = 0)
    (earlier later : List Turn) (cancelled : (play earlier surveyor).1.Cancelled ticket) :
    .error ∉ kindsOf (some ticket) (play (earlier ++ later) surveyor).2 := by
  have middle := steady.play earlier
  have pending := cancelled.mem_tickets
  have below := Nat.lt_of_lt_of_le (middle.orderly.below ticket pending)
    (keeps_play middle.orderly later).accepted
  rw [play_append, kindsOf_append, List.mem_append, not_or]
  constructor
  · exact fun early => quiet_of_pending steady fromZero pending _ early rfl
  · rcases lasts_or_hasLeft middle later (Or.inl pending) below with lasts | left
    · exact fun late => lasts.quiet _ late rfl
    · exact fun late => left.failed late cancelled

theorem finished_iff_taken (steady : Steady surveyor) (fromZero : surveyor.accepted = 0) :
    (kindsOf (some ticket) (play turns surveyor).2).getLast? = some .finished ↔
      ∃ batch, (ticket, batch) ∈ takings turns surveyor := by
  rw [← finished_mem_play steady]
  constructor
  · exact List.mem_of_getLast?
  · intro member
    rcases lasts_or_hasLeft_of_mem steady fromZero member with lasts | left
    · exact absurd rfl (lasts.quiet _ member)
    · exact left.getLast?_of_mem rfl member

theorem exists_cancelled (steady : Steady surveyor) (fromZero : surveyor.accepted = 0)
    (told : .cancelled ∈ kindsOf (some ticket) (play turns surveyor).2) :
    ∃ earlier later, turns = earlier ++ later ∧ (play earlier surveyor).1.Cancelled ticket := by
  rcases lasts_or_hasLeft_of_mem steady fromZero told with lasts | left
  · exact absurd rfl (lasts.quiet _ told)
  · exact left.cancelled told

/-- A request ends, if the worker gets what it waits for. -/
theorem exists_ends (steady : Steady surveyor) (lively : Lively surveyor)
    (fromZero : surveyor.accepted = 0) {turns : Nat → Turn} (fair : surveyor.Fair turns)
    {moment : Nat} (pending : ticket ∈ (play (opening turns moment) surveyor).1.tickets) :
    ∃ later, Ends surveyor turns moment ticket later := by
  obtain ⟨later, since, gone⟩ := exists_gone lively fair moment ticket
  obtain ⟨rest, split⟩ := exists_opening_append turns since
  have middle := steady.play (opening turns moment)
  have below : ticket < (play (opening turns later) surveyor).1.accepted := by
    rw [split, play_append]
    exact Nat.lt_of_lt_of_le (middle.orderly.below ticket pending)
      (keeps_play middle.orderly rest).accepted
  have fresh : surveyor.accepted ≤ ticket := fromZero ▸ Nat.zero_le ticket
  refine ⟨later, since, gone, ?_, ?_⟩
  · rcases lasts_or_hasLeft steady (opening turns later) (Or.inr fresh) below with lasts | left
    · exact absurd lasts.pending gone
    · obtain ⟨kinds, last, told, -, ends⟩ := left.told
      exact ⟨last, ends, by rw [told, List.getLast?_concat]⟩
  · intro cancelled free
    rw [split] at gone ⊢
    exact (dismissed_of_cancelled steady (opening turns moment) rest cancelled free).ended gone

end FromStart

/-- Whatever turns are taken after the surveyor was started, what requests are told of
cancellations agrees with which results were taken; and every request ends if the worker gets what
it waits for. -/
theorem start_faithful (discoverer : Settings.Discoverer)
    (capacity initialDelay reportInterval : Nat) (isContainer : Bool) (now : Nat) :
    (∀ turns, Faithful
      (start discoverer capacity initialDelay reportInterval isContainer now) turns) ∧
    ∀ turns, Fair (start discoverer capacity initialDelay reportInterval isContainer now) turns →
      ∀ moment ticket,
        ticket ∈ (play (opening turns moment)
          (start discoverer capacity initialDelay reportInterval isContainer now)).1.tickets →
        ∃ later, Ends (start discoverer capacity initialDelay reportInterval isContainer now)
          turns moment ticket later := by
  have steady := steady_start discoverer capacity initialDelay reportInterval isContainer now
  have lively := lively_start discoverer capacity initialDelay reportInterval isContainer now
  generalize begins : start discoverer capacity initialDelay reportInterval isContainer now =
    surveyor at steady lively
  have fromZero : surveyor.accepted = 0 := by rw [← begins]; rfl
  constructor
  · intro turns
    exact
      { finished := finishings_play steady turns
        once := takings_nodup steady turns
        ended := fun ticket => finished_iff_taken steady fromZero
        dismissed := by
          rintro earlier later - ticket cancelled free
          exact dismissed_of_cancelled steady earlier later cancelled free
        failed := by
          rintro earlier later rfl ticket cancelled
          exact not_failed_of_cancelled steady fromZero earlier later cancelled
        cancelled := fun ticket told => exists_cancelled steady fromZero told
        cancels := fun id => cancels id _ }
  · intro turns fair moment ticket pending
    exact exists_ends steady lively fromZero fair pending

/-- Turns in which the results of a first request are taken, and a second one is cancelled while it
waits. -/
def smallTurns : Nat → Turn
  | 0 => .discover {} {}
  | 1 => .take ⟨0, .epoch⟩
  | 2 => .discover { id := some "second" } {}
  | 3 => .cancel "second"
  | 4 => .resume ⟨0, .epoch⟩ (.answered Survey.readyAnswers)
  | _ => .take ⟨0, .epoch⟩

example : finishings (play (opening smallTurns 6) smallSurveyor).2 = [(0, 0)] ∧
    kindsOf (some 1) (play (opening smallTurns 6) smallSurveyor).2 = [.pending, .cancelled] :=
  ⟨rfl, rfl⟩

/-- After its last request the worker goes on to look for others. -/
theorem play_smallTurns (steps : Nat) :
    (play (opening smallTurns (steps + 6)) smallSurveyor).1 =
      (play (opening smallTurns 6) smallSurveyor).1 := by
  induction steps with
  | zero => rfl
  | succ steps ih =>
      rw [Nat.add_right_comm, play_opening_succ, ih]
      rfl

theorem small_turns_end :
    smallSurveyor.Fair smallTurns ∧
      (play (opening smallTurns 4) smallSurveyor).1.Cancelled 1 ∧
      ∃ later, 4 ≤ later ∧
        (kindsOf (some 1) (play (opening smallTurns later) smallSurveyor).2).getLast? =
          some .cancelled := by
  have fair : smallSurveyor.Fair smallTurns := by
    intro moment
    refine ⟨moment + 6, Nat.le_add_right _ _, Or.inr ?_⟩
    rw [play_smallTurns]
    exact ⟨_, rfl⟩
  have cancelled : (play (opening smallTurns 4) smallSurveyor).1.Cancelled 1 :=
    ⟨_, List.mem_cons_of_mem _ List.mem_cons_self, rfl, rfl⟩
  have free : ¬(play (opening smallTurns 4) smallSurveyor).1.Hands 1 := by
    rintro ⟨batch, hands⟩
    have other : (play (opening smallTurns 4) smallSurveyor).1.handing.map Prod.fst = some 0 := rfl
    rw [hands] at other
    simp at other
  obtain ⟨later, ends⟩ := (start_faithful {} 1 0 0 false 0).2 smallTurns fair 4 1
    cancelled.mem_tickets
  exact ⟨fair, cancelled, later, ends.since, ends.dismissed cancelled free⟩

end FieldSurvey.Surveyor
