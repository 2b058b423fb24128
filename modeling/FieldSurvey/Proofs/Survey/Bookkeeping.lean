import FieldSurvey.Proofs.Probe.Answering
import FieldSurvey.Proofs.Survey.Advance
import FieldSurvey.Proofs.Survey.Sweeping

/-!
# Journals of runs between waits

A run that advances from wait to wait has a journal all the way.  Its calls are answered as the
circumstances have it, its pools are at points of courses of its scans, and the targets that its
events tell to be found are those that its scans have reported.
-/

namespace FieldSurvey.Survey

open Probe (Course Outcome Pool Scan)
open Time (Timestamp)

/-! ## Circumstances -/

/-- Under which circumstances a run advances. -/
structure Circumstances where
  /-- whether it may find itself cancelled or not cancelled -/
  cancels : Bool → Prop
  /-- what it may be answered when it waits -/
  answers : ((wait : Wait) → wait.Answer) → Prop

namespace Circumstances

variable (circumstances : Circumstances)

/-- Whether the circumstances allow for a reply. -/
def Replies : (call : RunCall) → call.Reply → Prop
  | .isCancelled, isCancelled => circumstances.cancels isCancelled
  | .ask wait, answer => ∃ answers, circumstances.answers answers ∧ answer = answers wait
  | .askUnlessCancelled wait, outcome =>
    outcome = .cancelled ∧ circumstances.cancels true ∨
      ∃ answers, circumstances.answers answers ∧ outcome = .completed (answers wait)
  | .probe _ _, outcome => outcome = .cancelled → circumstances.cancels true
  | _, _ => True

/-- Whether a call may be answered under the circumstances in some way, and so be noted. -/
def Answers (journal : Journal) (call : RunCall) (reply : call.Reply) (after : Journal) : Prop :=
  journal.Notes call reply after ∧ circumstances.Replies call reply

/-- Whether a run may be woken so. -/
def Wakes : Wake → Prop
  | .answered answers => circumstances.answers answers
  | .happened _ => True

end Circumstances

/-- What a run has told, and where it stands, after some of its steps. -/
inductive Carries (circumstances : Circumstances) (survey : Survey) : List Event → Status → Prop
  | begun {isCancelled : Bool} (cancels : circumstances.cancels isCancelled) (now : Timestamp) :
    Carries circumstances survey (advance now isCancelled survey.run).1
      (advance now isCancelled survey.run).2
  | woken {events : List Event} {activity : Activity} {isCancelled : Bool} {wake : Wake}
    (carries : Carries circumstances survey events (.waiting activity))
    (cancels : circumstances.cancels isCancelled) (wakes : circumstances.Wakes wake)
    (now : Timestamp) :
    Carries circumstances survey (events ++ (activity.resume now isCancelled wake).1)
      (activity.resume now isCancelled wake).2

/-! ## What is told -/

/-- The targets that events tell to be found in a phase. -/
def toldIn (phase : Phase) (events : List Event) : List String :=
  events.filterMap fun
    | .scanFound told item _ => if told = phase then some item else none
    | _ => none

/-- The targets that the scans of a phase have reported. -/
def Journal.foundIn (journal : Journal) : (phase : Phase) → List phase.Item
  | .hosts => journal.responsive
  | .ports => journal.reported

/-- Whether events tell of just those targets that were reported. -/
def Journal.ToldBy (journal : Journal) (events : List Event) : Prop :=
  ∀ phase, toldIn phase events = (journal.foundIn phase).map phase.itemText

theorem toldIn_append (phase : Phase) (front back : List Event) :
    toldIn phase (front ++ back) = toldIn phase front ++ toldIn phase back :=
  List.filterMap_append

theorem toldIn_plain (phase : Phase) {event : Event} (isPlain : event.isPlain) :
    toldIn phase [event] = [] := by
  cases event <;> first | contradiction | rfl

/-- The reports of a pool are told in its phase. -/
theorem toldIn_reports (phase : Phase) (reports : List (Probe.Report phase.Item)) :
    toldIn phase (reports.map (Event.ofReport phase)) =
      (Probe.foundBy reports).map phase.itemText := by
  rw [toldIn, List.filterMap_map, Probe.foundBy, List.map_filterMap]
  refine List.filterMap_congr fun report _ => ?_
  cases report <;> simp [Event.ofReport]

theorem toldIn_reports_of_ne {phase other : Phase} (differ : phase ≠ other)
    (reports : List (Probe.Report phase.Item)) :
    toldIn other (reports.map (Event.ofReport phase)) = [] := by
  rw [toldIn, List.filterMap_map, List.filterMap_eq_nil_iff]
  intro report _
  cases report <;> simp [Event.ofReport, differ]

theorem isPlain_lastReport (phase : Phase) (pool : Pool phase.Item) :
    (Event.ofReport phase pool.lastReport).isPlain :=
  trivial

theorem foundIn_scanned (journal : Journal) (phase : Phase) (course : Course phase.Item) :
    (journal.scanned phase course).foundIn phase = journal.foundIn phase ++ course.reported := by
  cases phase <;> simp [Journal.scanned, Journal.foundIn, Journal.responsive, Journal.reported]

theorem foundIn_scanned_of_ne (journal : Journal) {phase other : Phase} (differ : phase ≠ other)
    (course : Course phase.Item) :
    (journal.scanned phase course).foundIn other = journal.foundIn other := by
  cases phase <;> cases other <;> first | contradiction | rfl

namespace Journal.ToldBy

variable {journal : Journal} {events : List Event}

theorem plain (told : journal.ToldBy events) {event : Event} (isPlain : event.isPlain) :
    journal.ToldBy (events ++ [event]) := by
  intro phase
  rw [toldIn_append, toldIn_plain phase isPlain, List.append_nil]
  exact told phase

theorem scanned (told : journal.ToldBy events) {phase : Phase} {course : Course phase.Item}
    (nothing : course.reported = []) : (journal.scanned phase course).ToldBy events := by
  intro other
  rw [told other]
  by_cases same : phase = other
  · subst same
    rw [foundIn_scanned, nothing, List.append_nil]
  · rw [foundIn_scanned_of_ne journal same]

/-- What a pool reports is told as it comes to the next point of its course. -/
theorem further {phase : Phase} {course next : Course phase.Item}
    (told : (journal.scanned phase course).ToldBy events)
    {reports : List (Probe.Report phase.Item)}
    (more : next.reported = course.reported ++ Probe.foundBy reports) :
    (journal.scanned phase next).ToldBy (events ++ reports.map (Event.ofReport phase)) := by
  intro other
  rw [toldIn_append, told other]
  by_cases same : phase = other
  · subst same
    rw [toldIn_reports, foundIn_scanned, foundIn_scanned, more, ← List.map_append,
      List.append_assoc]
  · rw [toldIn_reports_of_ne same, foundIn_scanned_of_ne journal same,
      foundIn_scanned_of_ne journal same, List.append_nil]

end Journal.ToldBy

/-! ## Steps -/

section Steps

variable (circumstances : Circumstances) (survey : Survey)

/-- A run that has kept its journal. -/
inductive Kept (events : List Event) : Status → Prop
  | waits {activity : Activity} {journal : Journal}
    (leads : survey.run.Leads circumstances.Answers {} activity.program journal)
    (idle : ∀ phase scan pool next, activity ≠ .probing phase scan pool next)
    (told : journal.ToldBy events) : Kept events (.waiting activity)
  | probes {phase : Phase} {scan : Scan phase.Item} {course : Course phase.Item}
    {next : Outcome (List phase.Item) → Program RunCalls Ending} {journal : Journal}
    (leads : survey.run.Leads circumstances.Answers {} (.call (.probe phase scan) next) journal)
    (takes : scan.Takes course) (busy : course.pool.isDone = false)
    (cancels : course.isCancelled → circumstances.cancels true)
    (told : (journal.scanned phase course).ToldBy events) :
    Kept events (.waiting (.probing phase scan course.pool next))
  | ended {ending : Ending} {journal : Journal}
    (leads : survey.run.Leads circumstances.Answers {} (.done ending) journal)
    (told : journal.ToldBy events) : Kept events (.ended ending)

variable {circumstances survey}
variable {events : List Event} {journal : Journal} {isCancelled : Bool}

/-- What the circumstances allow for is noted in the journal. -/
theorem Leads.noted {β : Type} {program rest : Program RunCalls β} {before after : Journal}
    (leads : program.Leads circumstances.Answers before rest after) :
    program.Leads Journal.Notes before rest after :=
  leads.mono fun _ _ _ _ answers => answers.1

/-- A call other than a scan is noted in some way, and leaves the scans as they are. -/
theorem exists_notes (told : journal.ToldBy events) (call : RunCall) (reply : call.Reply)
    (notProbe : ∀ phase scan, call ≠ .probe phase scan) :
    ∃ after, journal.Notes call reply after ∧ after.ToldBy events := by
  cases call with
  | probe phase scan => exact absurd rfl (notProbe phase scan)
  | ask wait => cases wait <;> exact ⟨_, rfl, told⟩
  | askUnlessCancelled wait => cases wait <;> exact ⟨_, rfl, told⟩
  | report event => exact ⟨_, rfl, told⟩
  | isCancelled => exact ⟨_, rfl, told⟩
  | clock => exact ⟨_, rfl, told⟩

/-- A pool that is done answers the scan that the run has called for. -/
theorem answers_probe {phase : Phase} {scan : Scan phase.Item} {course : Course phase.Item}
    (takes : scan.Takes course) (isDone : course.pool.isDone)
    (cancels : course.isCancelled → circumstances.cancels true) :
    circumstances.Answers journal (.probe phase scan) course.pool.outcome
      (journal.scanned phase course) := by
  refine ⟨⟨course, takes, isDone, rfl, rfl⟩, fun cancelled => cancels ?_⟩
  obtain ⟨trial, -, reached⟩ := takes
  rw [← reached.sound.isCancelled]
  by_contra goesOn
  simp [Pool.outcome, goesOn] at cancelled

theorem kept_advance (cancels : circumstances.cancels isCancelled) (now : Timestamp)
    {program : Program RunCalls Ending}
    (leads : survey.run.Leads circumstances.Answers {} program journal)
    (told : journal.ToldBy events) :
    Kept circumstances survey (events ++ (advance now isCancelled program).1)
      (advance now isCancelled program).2 := by
  induction program generalizing events journal with
  | done ending =>
      simp only [advance, List.append_nil]
      exact .ended leads told
  | call request next inductionHypothesis =>
      have permits := (survey.ensures_run.of_leads (Leads.noted leads)).1.2
      cases request with
      | report event =>
          have further := inductionHypothesis () (leads.answered ⟨rfl, trivial⟩)
            (told.plain permits)
          simpa [advance, List.append_assoc] using further
      | isCancelled => exact inductionHypothesis isCancelled (leads.answered ⟨rfl, cancels⟩) told
      | clock => exact inductionHypothesis now (leads.answered ⟨rfl, trivial⟩) told
      | ask wait =>
          simp only [advance, List.append_nil]
          exact .waits leads (by simp) told
      | askUnlessCancelled wait =>
          unfold advance
          split
          case isTrue cancelled =>
            obtain ⟨after, notes, still⟩ :=
              exists_notes told (.askUnlessCancelled wait) .cancelled (by simp)
            subst cancelled
            exact inductionHypothesis _ (leads.answered ⟨notes, Or.inl ⟨rfl, cancels⟩⟩) still
          case isFalse =>
            rw [List.append_nil]
            exact .waits leads (by simp) told
      | probe phase scan =>
          obtain ⟨sequence, lists⟩ := permits.lists
          obtain ⟨course, takes, here, cancelled, nothing⟩ := Scan.takes_begun lists isCancelled
          have stops : course.isCancelled → circumstances.cancels true := by
            rw [cancelled]
            rintro rfl
            exact cancels
          have still := told.scanned nothing
          -- a pool without targets, or of a run that is cancelled, may be done at once
          unfold advance
          dsimp only
          rw [← here]
          split
          case isTrue isDone =>
            have further := inductionHypothesis _
              (leads.answered (answers_probe takes isDone stops))
              (still.plain (isPlain_lastReport phase course.pool))
            simpa [List.append_assoc] using further
          case isFalse waits =>
            rw [List.append_nil]
            exact .probes leads takes (by simpa using waits) stops still

theorem kept_resume {activity : Activity}
    (kept : Kept circumstances survey events (.waiting activity))
    (cancels : circumstances.cancels isCancelled) {wake : Wake} (wakes : circumstances.Wakes wake)
    (now : Timestamp) :
    Kept circumstances survey (events ++ (activity.resume now isCancelled wake).1)
      (activity.resume now isCancelled wake).2 := by
  cases kept with
  | waits leads idle told =>
      cases activity with
      | asking wait next =>
          cases wake with
          | happened happening =>
              rw [Activity.resume, List.append_nil]
              exact .waits leads idle told
          | answered answers =>
              obtain ⟨after, notes, still⟩ :=
                exists_notes told (.ask wait) (answers wait) (by simp)
              exact kept_advance cancels now
                (leads.answered ⟨notes, answers, wakes, rfl⟩) still
      | askingUnlessCancelled wait next =>
          simp only [Activity.resume]
          split
          case isTrue cancelled =>
            obtain ⟨after, notes, still⟩ :=
              exists_notes told (.askUnlessCancelled wait) .cancelled (by simp)
            subst cancelled
            exact kept_advance cancels now
              (leads.answered ⟨notes, Or.inl ⟨rfl, cancels⟩⟩) still
          case isFalse =>
            cases wake with
            | happened happening =>
                rw [List.append_nil]
                exact .waits leads idle told
            | answered answers =>
                obtain ⟨after, notes, still⟩ :=
                  exists_notes told (.askUnlessCancelled wait) (.completed (answers wait)) (by simp)
                exact kept_advance cancels now
                  (leads.answered ⟨notes, Or.inr ⟨answers, wakes, rfl⟩⟩) still
      | probing phase scan pool next => exact absurd rfl (idle phase scan pool next)
  | @probes phase scan course next journal leads takes busy stops told =>
      cases wake with
      | answered answers =>
          rw [Activity.resume, List.append_nil]
          exact .probes leads takes busy stops told
      | happened happening =>
          obtain ⟨further, takes, here, cancelled, more⟩ := takes.next busy isCancelled happening
          have stops : further.isCancelled → circumstances.cancels true := by
            rw [cancelled, Bool.or_eq_true]
            rintro (before | rfl)
            · exact stops before
            · exact cancels
          have still := told.further more
          simp only [Activity.resume]
          rw [← here]
          split
          case isTrue isDone =>
            have onward := kept_advance cancels now
              (leads.answered (answers_probe takes isDone stops))
              (still.plain (isPlain_lastReport phase further.pool))
            simpa [List.append_assoc] using onward
          case isFalse waits => exact .probes leads takes (by simpa using waits) stops still

/-- A run keeps its journal. -/
theorem kept_of_carries {status : Status} (carries : Carries circumstances survey events status) :
    Kept circumstances survey events status := by
  induction carries with
  | begun cancels now =>
      have nothing : Journal.ToldBy {} [] := fun phase => by cases phase <;> rfl
      exact kept_advance cancels now (.here _ _) nothing
  | woken carries cancels wakes now inductionHypothesis =>
      exact kept_resume inductionHypothesis cancels wakes now

/-- At every moment of a run some journal is recorded, and its events tell what was reported. -/
theorem exists_records {status : Status} (carries : Carries circumstances survey events status) :
    ∃ journal, Records survey journal ∧ journal.ToldBy events := by
  cases kept_of_carries carries with
  | waits leads _ told => exact ⟨_, .called (Leads.noted leads), told⟩
  | probes leads takes _ _ told => exact ⟨_, .scanning (Leads.noted leads) takes, told⟩
  | ended leads told => exact ⟨_, .called (Leads.noted leads), told⟩

/-- A run that has ended was answered all its calls as the circumstances have it. -/
theorem exists_leads_ended {ending : Ending}
    (carries : Carries circumstances survey events (.ended ending)) :
    ∃ journal, survey.run.Leads circumstances.Answers {} (.done ending) journal ∧
      journal.ToldBy events := by
  cases kept_of_carries carries with
  | ended leads told => exact ⟨_, leads, told⟩

end Steps

end FieldSurvey.Survey
