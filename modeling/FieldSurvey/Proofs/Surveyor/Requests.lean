import FieldSurvey.Proofs.Surveyor.Accepting
import FieldSurvey.Proofs.Surveyor.Carrying

/-!
# What is told of requests

Whatever turns are taken, what is told of a request that was accepted is the beginning of
a word of the protocol, and a whole word once the request is no longer pending.  A request
that is rejected never enters the protocol: all that is told of it is the rejection.
-/

namespace FieldSurvey.Surveyor

open Model (ProgressKind)
open Survey (beginnings protocol Position)

theorem keeps_act {surveyor : Surveyor} (orderly : Orderly surveyor) (turn : Turn) :
    Keeps surveyor (turn.act surveyor) := by
  cases turn with
  | discover request surroundings => exact keeps_submit orderly _
  | register request surroundings => exact keeps_submit orderly _
  | cancel id => exact (alike_cancelWhere (hasId id) surveyor).keeps orderly rfl
  | configure mode config surroundings now =>
      exact (alike_configure mode config surroundings now surveyor).keeps orderly
        (congrArg Stats.rejected (stats_configure surveyor mode config surroundings now))
  | scan now => exact (alike_arm now 0 surveyor).keeps orderly rfl
  | shutDown => exact (alike_stop surveyor).keeps orderly rfl
  | fire now => exact composable_keeps.fire surveyor now orderly
  | take now => exact keeps_take orderly now
  | resume now wake => exact keeps_resume orderly now wake

theorem keeps_play {surveyor : Surveyor} (orderly : Orderly surveyor) (turns : List Turn) :
    Keeps surveyor (play turns surveyor) := by
  induction turns generalizing surveyor with
  | nil => exact .refl orderly
  | cons turn rest ih =>
      have first := keeps_act orderly turn
      exact first.trans (ih first.orderly)

theorem orderly_start (discoverer : Settings.Discoverer)
    (capacity initialDelay reportInterval : Nat) (isContainer : Bool) (now : Nat) :
    Orderly (start discoverer capacity initialDelay reportInterval isContainer now) where
  tickets_eq := rfl
  increasing := .nil
  below := by simp [start, arm, tickets]

/-- What is told of the requests in a sequence of turns. -/
structure Reported (surveyor : Surveyor) (turns : List Turn) : Prop where
  /-- a request that was ever pending has been told the beginning of a word -/
  begun : ∀ earlier later, turns = earlier ++ later →
    ∀ entry ∈ (play earlier surveyor).1.pending,
      kindsOf (some entry.ticket) (play turns surveyor).2 ∈
        beginnings (protocol entry.job.plan.mode.isScanning)
  /-- and a whole word, which ends with a terminal event, if it is no longer pending -/
  left : ∀ earlier later, turns = earlier ++ later →
    ∀ entry ∈ (play earlier surveyor).1.pending,
      entry.ticket ∉ (play turns surveyor).1.tickets →
        kindsOf (some entry.ticket) (play turns surveyor).2 ∈
          protocol entry.job.plan.mode.isScanning
  /-- every ticket that is told of was once that of a pending request -/
  known : ∀ signal ∈ (play turns surveyor).2, ∀ ticket, signal.ticket = some ticket →
    ∃ earlier later, turns = earlier ++ later ∧
      ∃ entry ∈ (play earlier surveyor).1.pending, entry.ticket = ticket
  /-- each rejected request has been told one error, and nothing else -/
  rejected : kindsOf none (play turns surveyor).2 =
    List.replicate (play turns surveyor).1.stats.rejected .error

/-! ## Tickets -/

/-- A step that hands out a ticket at most to a request that is pending afterwards. -/
def HandsOut (before after : Surveyor) : Prop :=
  after.accepted = before.accepted ∨
    after.accepted = before.accepted + 1 ∧ before.accepted ∈ after.tickets

theorem handsOut_submit (surveyor : Surveyor) (job : Job) :
    HandsOut surveyor (surveyor.submit job).2.1 := by
  unfold submit
  split
  · exact Or.inl rfl
  · refine Or.inr ⟨rfl, ?_⟩
    rw [tickets_accept]
    exact List.mem_append_right _ (List.mem_singleton_self _)

theorem HandsOut.congr {before middle after last : Surveyor} (handsOut : HandsOut middle after)
    (front : Alike before middle) (back : Alike after last) : HandsOut before last := by
  unfold HandsOut at handsOut ⊢
  rwa [back.accepted, back.tickets, ← front.accepted]

theorem handsOut_schedule (surveyor : Surveyor) (now : Nat) :
    HandsOut surveyor (surveyor.schedule now).1 := by
  have cancelled := alike_cancelWhere Job.isScan surveyor
  unfold schedule
  dsimp only
  split
  · exact Or.inl rfl
  · have submitted := handsOut_submit (surveyor.cancelWhere Job.isScan)
      (surveyor.cancelWhere Job.isScan).standing.renew.asScan
    split
    · rename_i equal
      rw [equal] at submitted
      exact submitted.congr cancelled ⟨rfl, rfl, rfl, rfl, rfl⟩
    · rename_i equal
      rw [equal] at submitted
      exact submitted.congr cancelled (alike_arm _ _ _)

theorem handsOut_fire (surveyor : Surveyor) (now : Nat) :
    HandsOut surveyor (surveyor.fire now).1 := by
  unfold fire
  dsimp only
  split
  · split
    · exact Or.inl rfl
    · exact handsOut_schedule { surveyor with timer := surveyor.timer.fired } now
  · exact Or.inl rfl

theorem accepted_take {surveyor : Surveyor} (orderly : Orderly surveyor) (now : Moment) :
    (surveyor.take now).1.accepted = surveyor.accepted := by
  have taken := takes orderly now
  generalize surveyor.take now = step at taken ⊢
  cases taken with
  | busy works => rfl
  | retires idle stopping => exact (drained_retire orderly idle).accepted
  | rests idle nothing => rfl
  | begins ticket rest job idle queued found => exact accepted_settle _ _ _ _ _

theorem accepted_resume (surveyor : Surveyor) (now : Moment) (wake : Survey.Wake) :
    (surveyor.resume now wake).1.accepted = surveyor.accepted := by
  have resumed := resumes surveyor now wake
  generalize surveyor.resume now wake = step at resumed ⊢
  cases resumed with
  | settles ticket job activity works => exact accepted_settle _ _ _ _ _
  | rests => rfl

theorem handsOut_act {surveyor : Surveyor} (orderly : Orderly surveyor) (turn : Turn) :
    HandsOut surveyor (turn.act surveyor).1 := by
  cases turn with
  | discover request surroundings => exact handsOut_submit surveyor _
  | register request surroundings => exact handsOut_submit surveyor _
  | cancel id => exact Or.inl rfl
  | configure mode config surroundings now =>
      exact Or.inl (alike_configure mode config surroundings now surveyor).accepted
  | scan now => exact Or.inl rfl
  | shutDown => exact Or.inl rfl
  | fire now => exact handsOut_fire surveyor now
  | take now => exact Or.inl (accepted_take orderly now)
  | resume now wake => exact Or.inl (accepted_resume surveyor now wake)

/-- Every ticket that was handed out was at some time that of a pending request. -/
theorem exists_pending {surveyor : Surveyor} (orderly : Orderly surveyor) (turns : List Turn)
    {ticket : Nat} (from_ : surveyor.accepted ≤ ticket)
    (below : ticket < (play turns surveyor).1.accepted) :
    ∃ earlier later, turns = earlier ++ later ∧
      ∃ entry ∈ (play earlier surveyor).1.pending, entry.ticket = ticket := by
  induction turns using List.reverseRecOn with
  | nil => exact absurd below (Nat.not_lt.mpr from_)
  | append_singleton front last ih =>
      by_cases early : ticket < (play front surveyor).1.accepted
      · obtain ⟨earlier, later, rfl, known⟩ := ih early
        exact ⟨earlier, later ++ [last], by simp, known⟩
      · refine ⟨front ++ [last], [], by simp, ?_⟩
        rw [play_append] at below ⊢
        rcases handsOut_act (keeps_play orderly front).orderly last with same | ⟨more, member⟩
        · exact absurd (same ▸ below) early
        · have late := Nat.not_lt.mp early
          have isNew : ticket = (play front surveyor).1.accepted := by
            have atMost : ticket < (play front surveyor).1.accepted + 1 := more ▸ below
            omega
          rw [isNew]
          exact List.mem_map.mp member

/-- What is told of requests follows the protocol, whatever turns are taken after the
surveyor was started and whatever is answered in them. -/
theorem start_reported (discoverer : Settings.Discoverer)
    (capacity initialDelay reportInterval : Nat) (isContainer : Bool) (now : Nat)
    (turns : List Turn) :
    Reported (start discoverer capacity initialDelay reportInterval isContainer now) turns := by
  have orderly := orderly_start discoverer capacity initialDelay reportInterval isContainer now
  generalize begins : start discoverer capacity initialDelay reportInterval isContainer now =
    surveyor at orderly
  have fromZero : surveyor.accepted = 0 := by rw [← begins]; rfl
  have noneRejected : surveyor.stats.rejected = 0 := by rw [← begins]; rfl
  have course : ∀ earlier later, turns = earlier ++ later →
      ∀ entry ∈ (play earlier surveyor).1.pending,
        Course (play turns surveyor).1 (play turns surveyor).2 entry.ticket
          entry.job.plan.mode.isScanning := by
    rintro earlier later rfl entry member
    have first := keeps_play orderly earlier
    have below := first.orderly.below entry.ticket (List.mem_map_of_mem member)
    obtain ⟨isScanning, begun⟩ :=
      first.begun entry.ticket (by rw [fromZero]; exact Nat.zero_le _) below
    rw [begun.mode entry member rfl, play_append]
    exact (keeps_play first.orderly later).course _ _ _ begun
  exact
    { begun := by
        intro earlier later split entry member
        obtain ⟨position, reach, -⟩ := (course earlier later split entry member).position
        exact position.reach_le_beginnings reach
      left := by
        intro earlier later split entry member gone
        have ordered := (keeps_play orderly turns).orderly
        obtain ⟨position, reach, stands⟩ := (course earlier later split entry member).position
        cases position with
        | ended ending => exact reach
        | waiting =>
            refine absurd ?_ gone
            rw [ordered.tickets_eq]
            exact List.mem_append_right _ stands
        | running stage =>
            obtain ⟨job, activity, works, -⟩ := stands
            refine absurd ?_ gone
            rw [ordered.tickets_eq, running, works]
            exact List.mem_append_left _ (List.mem_singleton_self _)
      known := by
        intro signal member ticket hasTicket
        apply exists_pending orderly turns (by rw [fromZero]; exact Nat.zero_le _)
        by_contra beyond
        have silent := (keeps_play orderly turns).fresh ticket (Nat.not_lt.mp beyond)
        have told : signal.event.kind ∈ kindsOf (some ticket) (play turns surveyor).2 :=
          List.mem_map.mpr ⟨signal, List.mem_filter.mpr ⟨member, decide_eq_true hasTicket⟩, rfl⟩
        rw [silent] at told
        contradiction
      rejected := by
        obtain ⟨more, count, told⟩ := (keeps_play orderly turns).rejected
        rw [noneRejected, Nat.zero_add] at count
        rw [told, count] }

/-- A surveyor with room for one request. -/
def smallSurveyor : Surveyor :=
  start {} 1 0 0 false 0

/-- A rejected request is not told of by the protocol: of two requests that are submitted at
once to a surveyor with room for one, the second one fails without ever having started. -/
theorem rejected_request_leaves_protocol :
    kindsOf none (play [.discover {} {}, .discover {} {}] smallSurveyor).2 = [.error] ∧
      ∀ isScanning, [ProgressKind.error] ∉ beginnings (protocol isScanning) := by
  refine ⟨rfl, ?_⟩
  rintro isScanning ⟨rest, whole⟩
  rcases Survey.first_of_protocol whole with pending | cancelled | started <;> contradiction

end FieldSurvey.Surveyor
