import FieldSurvey.Proofs.Surveyor.Order

/-!
# Order when requests are submitted

A request that is accepted begins at the end of the queue.  One that is rejected
changes nothing for the others, and is told of by a single event.
-/

namespace FieldSurvey.Surveyor

open Model (ProgressKind)
open Survey (Position)

variable {surveyor : Surveyor}

theorem kindsOf_signal_self (surveyor : Surveyor) (ticket : Option Nat) (job : Job)
    (event : Survey.Event) : kindsOf ticket [surveyor.signal ticket job event] = [event.kind] := by
  rw [kindsOf_cons_signal, if_pos rfl]
  rfl

theorem kindsOf_signal_other {ticket other : Option Nat} (apart : ticket ≠ other)
    (surveyor : Surveyor) (job : Job) (event : Survey.Event) :
    kindsOf other [surveyor.signal ticket job event] = [] := by
  rw [kindsOf_cons_signal, if_neg apart]
  rfl

theorem refusal?_of_isStopping (stopping : surveyor.isStopping) :
    surveyor.refusal? = some .closed :=
  if_pos stopping

theorem submit_of_isStopping (stopping : surveyor.isStopping) (job : Job) :
    surveyor.submit job = (some .closed, surveyor.reject,
      [surveyor.signal none job (.failed Rejection.closed.reason)]) := by
  simp only [submit, refusal?_of_isStopping stopping]

theorem keeps_reject (orderly : Orderly surveyor) (job : Job) (rejection : Rejection) :
    Keeps surveyor
      (surveyor.reject, [surveyor.signal none job (.failed rejection.reason)]) := by
  have alike : Alike surveyor surveyor.reject := ⟨rfl, rfl, rfl, rfl, rfl⟩
  exact
    { discoverer := rfl
      orderly := alike.orderly orderly
      accepted := Nat.le_refl _
      course := by
        intro told ticket isScanning course
        obtain ⟨accepted, mode, position⟩ := alike.course course
        refine ⟨accepted, mode, ?_⟩
        rwa [kindsOf_append, kindsOf_signal_other (by simp), List.append_nil]
      begun := fun ticket from_ below => absurd below (Nat.not_lt.mpr from_)
      fresh := fun ticket _ => kindsOf_signal_other (by simp) _ _ _
      rejected := ⟨1, rfl, kindsOf_signal_self _ _ _ _⟩ }

theorem tickets_accept (job : Job) :
    (surveyor.accept job).tickets = surveyor.tickets ++ [surveyor.accepted] := by
  simp [tickets, accept]

theorem orderly_accept (orderly : Orderly surveyor) (job : Job) :
    Orderly (surveyor.accept job) where
  tickets_eq := by
    rw [tickets_accept, orderly.tickets_eq, List.append_assoc]
    rfl
  increasing := by
    rw [tickets_accept, List.pairwise_append]
    refine ⟨orderly.increasing, List.pairwise_singleton _ _, ?_⟩
    intro ticket member last lastMember
    rw [List.mem_singleton.mp lastMember]
    exact orderly.below ticket member
  below := by
    intro ticket member
    rw [tickets_accept] at member
    rcases List.mem_append.mp member with old | new
    · exact Nat.lt_succ_of_lt (orderly.below ticket old)
    · rw [List.mem_singleton.mp new]
      exact Nat.lt_succ_self _

theorem standsAt_accept (job : Job) {ticket : Nat} {isScanning : Bool} {position : Position}
    (below : ticket < surveyor.accepted)
    (stands : surveyor.StandsAt ticket isScanning position) :
    (surveyor.accept job).StandsAt ticket isScanning position := by
  cases position with
  | waiting => exact List.mem_append_left _ stands
  | running stage => exact stands
  | ended ending =>
      change ticket ∉ (surveyor.accept job).tickets
      rw [tickets_accept]
      intro member
      rcases List.mem_append.mp member with old | new
      · exact stands old
      · exact Nat.ne_of_lt below (List.mem_singleton.mp new)

/-- A request that is accepted is told at most how many are ahead of it. -/
theorem keeps_accept (orderly : Orderly surveyor) (job : Job) {signals : List Signal}
    (told : signals = [] ∨ ∃ ahead,
      signals = [surveyor.signal (some surveyor.accepted) job (.pending ahead)]) :
    Keeps surveyor (surveyor.accept job, signals) := by
  have others : ∀ other : Option Nat, other ≠ some surveyor.accepted →
      kindsOf other signals = [] := by
    intro other apart
    rcases told with rfl | ⟨ahead, rfl⟩
    · rfl
    · exact kindsOf_signal_other apart.symm _ _ _
  exact
    { discoverer := rfl
      orderly := orderly_accept orderly job
      accepted := Nat.le_succ _
      course := by
        intro former ticket isScanning course
        obtain ⟨below, mode, position, reach, stands⟩ := course
        refine ⟨Nat.lt_succ_of_lt below, ?_, position, ?_, standsAt_accept job below stands⟩
        · intro entry member same
          rcases List.mem_append.mp member with old | new
          · exact mode entry old same
          · rw [List.mem_singleton.mp new] at same
            exact absurd same.symm (Nat.ne_of_lt below)
        · have apart : some ticket ≠ some surveyor.accepted := by simpa using Nat.ne_of_lt below
          rwa [kindsOf_append, others _ apart, List.append_nil]
      begun := by
        intro ticket from_ below
        have new : ticket = surveyor.accepted := Nat.le_antisymm (Nat.le_of_lt_succ below) from_
        subst new
        refine ⟨job.plan.mode.isScanning, Nat.lt_succ_self _, ?_, .waiting, ?_, ?_⟩
        · intro entry member same
          rcases List.mem_append.mp member with old | new
          · have early := orderly.below entry.ticket (List.mem_map_of_mem old)
            exact absurd same (Nat.ne_of_lt early)
          · rw [List.mem_singleton.mp new]
        · rcases told with rfl | ⟨ahead, rfl⟩
          · exact Language.nil_mem_kstar _
          · rw [kindsOf_signal_self]
            exact Position.reach_pending (Language.nil_mem_kstar _)
        · exact List.mem_append_right _ (List.mem_singleton_self _)
      fresh := by
        intro ticket beyond
        apply others _
        simpa using Nat.ne_of_gt (Nat.lt_of_succ_le beyond)
      rejected := ⟨0, rfl, others _ (by simp)⟩ }

theorem keeps_submit (orderly : Orderly surveyor) (job : Job) :
    Keeps surveyor (surveyor.submit job).2 := by
  unfold submit
  split
  · exact keeps_reject orderly job _
  · dsimp only
    split
    · exact keeps_accept orderly job (Or.inl rfl)
    · exact keeps_accept orderly job (Or.inr ⟨_, rfl⟩)

theorem composable_keeps :
    Composable fun before step => Orderly before → Keeps before step where
  trans first second orderly := (first orderly).trans (second (first orderly).orderly)
  timer _ _ orderly := Alike.keeps ⟨rfl, rfl, rfl, rfl, rfl⟩ orderly rfl
  cancelWhere surveyor test orderly := (alike_cancelWhere test surveyor).keeps orderly rfl
  submit _ job orderly := keeps_submit orderly job

end FieldSurvey.Surveyor
