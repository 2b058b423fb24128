import FieldSurvey.Proofs.Survey.Calls

/-!
# Finite scans

A scan has no more targets than it says, whichever ranges of addresses and ports it is for.  All
the scans of a run are of this kind.
-/

namespace FieldSurvey

/-! ## Scans -/

theorem Address.Range.nth?_total (ranges : List Address.Range) :
    Address.Range.nth? ranges (Address.Range.total ranges) = none := by
  induction ranges with
  | nil => rfl
  | cons range rest ih =>
      rw [total, nth?, if_neg (Nat.not_lt.mpr (Nat.le_add_right _ _)), Nat.add_sub_cancel_left]
      exact ih

theorem Port.Range.nth?_total (ranges : List Port.Range) :
    Port.Range.nth? ranges (Port.Range.total ranges) = none := by
  induction ranges with
  | nil => rfl
  | cons range rest ih =>
      rw [total, nth?, if_neg (Nat.not_lt.mpr (Nat.le_add_right _ _)), Nat.add_sub_cancel_left]
      exact ih

namespace Survey

open Probe (Scan)

/-- Whether the targets of a scan end after as many as it says. -/
def Exact {τ : Type} (scan : Scan τ) : Prop :=
  scan.targets scan.total = none

theorem exact_hostScan (survey : Survey) : Exact survey.hostScan :=
  congrArg (Option.map Address.Ip.v4) (Address.Range.nth?_total survey.plan.addressRanges)

theorem exact_portScan (survey : Survey) (addresses : List Address.Ip) :
    Exact (survey.portScan addresses) := by
  have ends := Port.Range.nth?_total survey.plan.portRanges
  simp only [Exact, portScan, Scan.ports, Scan.socketAt]
  rcases Nat.eq_zero_or_pos (Port.Range.total survey.plan.portRanges) with none | some_
  · rw [none] at ends ⊢
    simp [ends]
  · rw [Nat.mul_div_cancel _ some_, List.getElem?_eq_none (Nat.le_refl _)]
    rfl

/-! ## Programs with finite scans -/

section Finite

variable {β γ : Type}

/-- A monitor that allows a scan only if its targets end. -/
def finiteMonitor : Monitor RunCalls Unit where
  allows _ call :=
    match call with
    | .probe _ scan => Exact scan
    | _ => True
  next _ _ _ := ()

/-- Whether a program has finite scans only. -/
def Finite (program : Program RunCalls β) : Prop :=
  program.Follows finiteMonitor (fun _ _ => True) ()

theorem finite_done (value : β) : Finite (.done value) :=
  trivial

theorem Finite.bind {program : Program RunCalls β} {next : β → Program RunCalls γ}
    (first : Finite program) (second : ∀ value, Finite (next value)) :
    Finite (program.bind next) :=
  Program.Follows.bind first fun value _ _ => second value

theorem finite_report (event : Event) : Finite (report event) :=
  ⟨trivial, fun _ => trivial⟩

theorem finite_isCancelled : Finite isCancelled :=
  ⟨trivial, fun _ => trivial⟩

/-- A program is finite if it keeps to calls that are no scans, or scans whose targets end. -/
theorem Finite.of_only {allowed : RunCall → Prop} {program : Program RunCalls β}
    (only : program.Only allowed)
    (isExact : ∀ call, allowed call → finiteMonitor.allows () call) : Finite program :=
  only.follows (fun _ => True) trivial fun _ call _ isAllowed =>
    ⟨isExact call isAllowed, fun _ => trivial⟩

theorem Finite.of_plain {program : Program RunCalls β} (plain : program.Only RunCall.isPlain) :
    Finite program := by
  refine Finite.of_only plain fun call isPlain => ?_
  cases call <;> first | contradiction | trivial

theorem finite_addScanned (survey : Survey) (targets : List Target) :
    Finite (survey.addScanned targets) := by
  refine Finite.of_only (survey.searches_addScanned targets) fun call searches => ?_
  cases searches with
  | reports isPlain => trivial
  | hosts => exact survey.exact_hostScan
  | ports addresses => exact survey.exact_portScan addresses
  | reverse ip => trivial

theorem finite_carryOut (survey : Survey) : Finite survey.carryOut := by
  apply (Finite.of_plain (plain_addDeclared _ _ _)).bind
  intro targets
  apply finite_isCancelled.bind
  intro cancelled
  cases cancelled with
  | true => exact finite_done _
  | false =>
      apply (survey.finite_addScanned targets).bind
      intro outcome
      cases outcome with
      | cancelled => exact finite_done _
      | completed targets =>
          apply (Finite.of_plain (survey.plain_askServers targets)).bind
          intro outcome
          cases outcome with
          | cancelled => exact finite_done _
          | completed registrations => exact .of_plain (survey.plain_publish registrations)

theorem finite_run (survey : Survey) : Finite survey.run := by
  apply finite_isCancelled.bind
  intro cancelled
  cases cancelled with
  | true => exact (finite_report _).bind fun _ => finite_done _
  | false =>
      apply (finite_report _).bind
      intro _
      apply survey.finite_carryOut.bind
      intro ending
      exact (finite_report _).bind fun _ => finite_done _

end Finite

end Survey

end FieldSurvey
