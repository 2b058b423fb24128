import FieldSurvey.Proofs.Probe.Course

/-!
# Pools have less and less to do

A pool of finitely many targets has less left to do each time that a probe comes to an end,
although it issues others in its place.  Nothing else that happens to it gives it more to do.
-/

namespace FieldSurvey.Probe.Pool

variable {τ : Type} {targets : Targets τ} {total : Nat}

/-- How much a pool of so many targets has left to do: to issue probes, and to wait for them. -/
def left (total : Nat) (pool : Pool τ) : Nat :=
  2 * (total - pool.counters.issued) + pool.inFlight.length

/-- A step of a pool in which it goes no further than its last target and gets no more to do. -/
structure Lessens (total : Nat) (before after : Pool τ) : Prop where
  within : after.counters.issued ≤ total
  left : after.left total ≤ before.left total

theorem lessens_fill (ends : targets total = none) (room : Nat) (pool : Pool τ)
    (within : pool.counters.issued ≤ total) : Lessens total pool (fill targets room pool) := by
  induction room generalizing pool with
  | zero => exact ⟨within, Nat.le_refl _⟩
  | succ room ih =>
      unfold fill
      split
      case h_1 => exact ⟨within, Nat.le_refl _⟩
      case h_2 target next =>
        have more : pool.counters.issued < total := by
          apply Nat.lt_of_le_of_ne within
          intro same
          rw [same, ends] at next
          contradiction
        obtain ⟨later, less⟩ := ih
          { pool with
            inFlight := pool.inFlight ++ [(pool.counters.issued, target)]
            counters := { pool.counters with issued := pool.counters.issued + 1 } } more
        refine ⟨later, less.trans ?_⟩
        simp only [left, List.length_append, List.length_singleton]
        omega

theorem lessens_proceed (ends : targets total = none) (isCancelled : Bool) (pool : Pool τ)
    (within : pool.counters.issued ≤ total) :
    Lessens total pool (pool.proceed targets isCancelled) := by
  unfold proceed
  dsimp only
  split
  · exact ⟨within, Nat.le_refl _⟩
  · obtain ⟨later, less⟩ := lessens_fill ends (pool.limit.current - pool.inFlight.length)
      { pool with isCancelled := pool.isCancelled || isCancelled } within
    exact ⟨later, less⟩

/-- Whether something happens that a pool waits for, which is that a probe comes to an end. -/
def Awaits (pool : Pool τ) : Happening → Prop
  | .settled position _ => (pool.inFlight.lookup position).isSome
  | _ => False

theorem left_heed_lt {happening : Happening} {pool : Pool τ} (awaits : pool.Awaits happening) :
    (pool.heed happening).1.left total < pool.left total := by
  cases happening with
  | ticked => contradiction
  | noticed => contradiction
  | settled position verdict =>
      obtain ⟨target, here⟩ := Option.isSome_iff_exists.mp awaits
      have erased : (pool.settle position verdict).1.inFlight =
          pool.inFlight.eraseP fun entry => entry.1 == position := by
        simp only [settle, here]
        split <;> rfl
      have member : (position, target) ∈ pool.inFlight := by
        obtain ⟨earlier, later, inFlight, -⟩ := List.lookup_eq_some_iff.mp here
        rw [inFlight]
        exact List.mem_append_right _ List.mem_cons_self
      have fewer := List.length_eraseP_add_one (p := fun entry => entry.1 == position) member
        (beq_self_eq_true position)
      have issued := (heeds_settle position verdict pool).issued
      simp only [heed, left, erased, issued]
      omega

theorem left_heed_le (happening : Happening) (pool : Pool τ) :
    (pool.heed happening).1.left total ≤ pool.left total := by
  by_cases awaits : pool.Awaits happening
  · exact (left_heed_lt awaits).le
  · cases happening with
    | ticked => exact Nat.le_refl _
    | noticed => exact Nat.le_refl _
    | settled position verdict =>
        have absent := Option.not_isSome_iff_eq_none.mp awaits
        simp only [heed, settle, absent]
        exact Nat.le_refl _

/-- A pool that is woken gets no more to do, and less if it waited for what happens. -/
theorem lessens_next (ends : targets total = none) (isCancelled : Bool) (happening : Happening)
    (pool : Pool τ) (within : pool.counters.issued ≤ total) :
    Lessens total pool (pool.next targets isCancelled happening).1 ∧
      (pool.Awaits happening →
        (pool.next targets isCancelled happening).1.left total < pool.left total) := by
  have heeds := heeds_heed happening pool
  obtain ⟨later, less⟩ :=
    lessens_proceed ends isCancelled (pool.heed happening).1 (heeds.issued ▸ within)
  rw [next_eq]
  exact ⟨⟨later, less.trans (left_heed_le happening pool)⟩,
    fun awaits => Nat.lt_of_le_of_lt less (left_heed_lt awaits)⟩

end FieldSurvey.Probe.Pool
