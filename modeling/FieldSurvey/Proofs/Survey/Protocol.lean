import FieldSurvey.Survey.Run
import Mathlib.Computability.Language

/-!
# The protocol of a request

What is told of a request is a word over the kinds of events.  The words that a request
may be told of in full form a regular language; a request that is still pending has been
told a beginning of one.  A position in the protocol says how far a request has come.
-/

namespace FieldSurvey.Survey

open Model (ProgressKind)
open Computability

/-- The word of one event. -/
def told (kind : ProgressKind) : Language ProgressKind :=
  {[kind]}

/-- A scan that is still running. -/
def scanning : Phase → Language ProgressKind
  | .hosts => told .networkScanStarted * (told .networkScanResult + told .networkScanProgress)∗
  | .ports => told .portScanStarted * (told .portScanResult + told .portScanProgress)∗

/-- A scan. -/
def scanned : Phase → Language ProgressKind
  | .hosts => scanning .hosts * told .networkScanFinished
  | .ports => scanning .ports * told .portScanFinished

/-- The scans of a run, if it scans. -/
def scans (isScanning : Bool) : Language ProgressKind :=
  if isScanning then scanned .hosts * scanned .ports else 1

/-- The servers asked so far. -/
def asked : Language ProgressKind :=
  told .serverDiscoveryStarted *
    (told .endpointsDiscoveryStarted * told .endpointsDiscoveryFinished)∗

/-- A run in full. -/
def fullRun (isScanning : Bool) : Language ProgressKind :=
  scans isScanning * (asked * told .serverDiscoveryFinished)

/-- The beginnings of the words of a language. -/
def beginnings {α : Type} (language : Language α) : Language α :=
  {word | ∃ rest, word ++ rest ∈ language}

/-- All that may be told of a request that has ended. -/
def protocol (isScanning : Bool) : Language ProgressKind :=
  (told .pending)∗ *
    (told .cancelled +
      told .started *
        (beginnings (fullRun isScanning) * told .cancelled +
          fullRun isScanning * (told .finished + told .error)))

/-! ## Positions -/

/-- How far a run has come. -/
inductive Stage where
  | begun
  | probing (phase : Phase)
  | probed (phase : Phase)
  | asking
  /-- a server was asked and has not answered yet -/
  | awaiting
  | surveyed
  /-- the results were taken -/
  | handed
  /-- the results were refused -/
  | refused
  deriving DecidableEq

/-- How far a request has come. -/
inductive Position where
  | waiting
  | running (stage : Stage)
  | ended (ending : Ending)
  deriving DecidableEq

/-- Where an event leads that is told in the course of a run. -/
def Stage.tell (isScanning : Bool) : Stage → Event → Option Stage
  | .begun, .scanStarted .hosts _ _ => if isScanning then some (.probing .hosts) else none
  | .probed .hosts, .scanStarted .ports _ _ => some (.probing .ports)
  | .probing phase, .scanFound other _ _ => if other = phase then some (.probing phase) else none
  | .probing phase, .scanProgress other _ => if other = phase then some (.probing phase) else none
  | .probing phase, .scanFinished other _ _ => if other = phase then some (.probed phase) else none
  | .begun, .serversStarted _ => if isScanning then none else some .asking
  | .probed .ports, .serversStarted _ => some .asking
  | .asking, .endpointsStarted _ _ _ => some .awaiting
  | .awaiting, .endpointsFinished _ _ _ _ _ => some .asking
  | .asking, .serversFinished _ _ => some .surveyed
  | _, _ => none

/-- Where an event leads. -/
def Position.tell (isScanning : Bool) : Position → Event → Option Position
  | .waiting, .pending _ => some .waiting
  | .waiting, .cancelled => some (.ended .cancelled)
  | .waiting, .started => some (.running .begun)
  | .running stage, .cancelled => if stage = .handed then none else some (.ended .cancelled)
  | .running .handed, .finished records => some (.ended (.finished records))
  | .running .refused, .failed reason => some (.ended (.failed reason))
  | .running stage, event => (stage.tell isScanning event).map .running
  | _, _ => none

/-- What a run may have been told by the time it has come to a stage. -/
def Stage.reach (isScanning : Bool) : Stage → Language ProgressKind
  | .begun => 1
  | .probing .hosts => if isScanning then scanning .hosts else 0
  | .probed .hosts => if isScanning then scanned .hosts else 0
  | .probing .ports => if isScanning then scanned .hosts * scanning .ports else 0
  | .probed .ports => if isScanning then scanned .hosts * scanned .ports else 0
  | .asking => scans isScanning * asked
  | .awaiting => scans isScanning * (asked * told .endpointsDiscoveryStarted)
  | .surveyed | .handed | .refused => fullRun isScanning

/-- What a request may have been told by the time it has come to a position. -/
def Position.reach (isScanning : Bool) : Position → Language ProgressKind
  | .waiting => (told .pending)∗
  | .running stage => (told .pending)∗ * (told .started * stage.reach isScanning)
  | .ended _ => protocol isScanning

/-! ## Words and positions -/

variable {isScanning : Bool} {word : List ProgressKind}

theorem mem_told (kind : ProgressKind) : [kind] ∈ told kind :=
  rfl

theorem concat_mem {language : Language ProgressKind} (member : word ∈ language)
    (kind : ProgressKind) : word ++ [kind] ∈ language * told kind :=
  Language.append_mem_mul member (mem_told kind)

theorem append_mem_mul_kstar {front language : Language ProgressKind} {more : List ProgressKind}
    (member : word ∈ front * language∗) (next : more ∈ language) :
    word ++ more ∈ front * language∗ := by
  obtain ⟨start, inFront, rest, inStar, rfl⟩ := Language.mem_mul.mp member
  obtain ⟨words, rfl, each⟩ := Language.mem_kstar.mp inStar
  rw [List.append_assoc]
  refine Language.append_mem_mul inFront (Language.mem_kstar.mpr ⟨words ++ [more], by simp, ?_⟩)
  intro piece inWords
  rcases List.mem_append.mp inWords with old | last
  · exact each piece old
  · exact List.mem_singleton.mp last ▸ next

theorem scanning_found (phase : Phase) (item : String) (counters : Probe.Counters)
    (member : word ∈ scanning phase) :
    word ++ [(Event.scanFound phase item counters).kind] ∈ scanning phase := by
  cases phase <;> exact append_mem_mul_kstar member (Or.inl rfl)

theorem scanning_progress (phase : Phase) (counters : Probe.Counters)
    (member : word ∈ scanning phase) :
    word ++ [(Event.scanProgress phase counters).kind] ∈ scanning phase := by
  cases phase <;> exact append_mem_mul_kstar member (Or.inr rfl)

theorem scanned_finished (phase : Phase) (total found : Nat) (member : word ∈ scanning phase) :
    word ++ [(Event.scanFinished phase total found).kind] ∈ scanned phase := by
  cases phase <;> exact concat_mem member _

theorem scanning_started (phase : Phase) (workers : UInt64) (total : Nat) :
    [(Event.scanStarted phase workers total).kind] ∈ scanning phase := by
  cases phase <;> exact Language.append_mem_mul (mem_told _) (Language.nil_mem_kstar _)

theorem append_mem_mul_right {front back longer : Language ProgressKind}
    {more : List ProgressKind} (member : word ∈ front * back)
    (extends_ : ∀ rest ∈ back, rest ++ more ∈ longer) : word ++ more ∈ front * longer := by
  obtain ⟨start, inFront, rest, inBack, rfl⟩ := Language.mem_mul.mp member
  rw [List.append_assoc]
  exact Language.append_mem_mul inFront (extends_ rest inBack)

theorem asked_started : [ProgressKind.serverDiscoveryStarted] ∈ asked :=
  Language.append_mem_mul (mem_told _) (Language.nil_mem_kstar _)

theorem asked_finished (member : word ∈ asked * told .endpointsDiscoveryStarted) :
    word ++ [ProgressKind.endpointsDiscoveryFinished] ∈ asked := by
  obtain ⟨front, inAsked, last, inLast, rfl⟩ := Language.mem_mul.mp member
  rw [List.append_assoc]
  exact append_mem_mul_kstar inAsked (Language.append_mem_mul inLast rfl)

theorem mem_ite_zero {condition : Bool} {language : Language ProgressKind} :
    word ∈ (if condition then language else 0) ↔ condition = true ∧ word ∈ language := by
  cases condition
  · simp
  · simp

/-- What is told of a scan extends what a run was told. -/
theorem Stage.reach_probing {phase : Phase} {stage : Stage} {more : List ProgressKind}
    (stays : stage = .probing phase ∨ stage = .probed phase)
    (extends_ : ∀ rest ∈ scanning phase, rest ++ more ∈
      if stage = .probing phase then scanning phase else scanned phase)
    (member : word ∈ (Stage.probing phase).reach isScanning) :
    word ++ more ∈ stage.reach isScanning := by
  cases phase with
  | hosts =>
      obtain ⟨isScan, inScan⟩ := mem_ite_zero.mp member
      have longer := extends_ word inScan
      rcases stays with rfl | rfl <;> exact mem_ite_zero.mpr ⟨isScan, by simpa using longer⟩
  | ports =>
      obtain ⟨isScan, inScan⟩ := mem_ite_zero.mp member
      have longer := append_mem_mul_right inScan extends_
      rcases stays with rfl | rfl <;> exact mem_ite_zero.mpr ⟨isScan, by simpa using longer⟩

/-- An event takes a run to where it leads. -/
theorem Stage.reach_tell {stage next : Stage} {event : Event}
    (leads : stage.tell isScanning event = some next) (member : word ∈ stage.reach isScanning) :
    word ++ [event.kind] ∈ next.reach isScanning := by
  unfold Stage.tell at leads
  split at leads
  case h_1 =>
    split at leads
    · rename_i scans
      cases leads
      rw [(Language.mem_one word).mp member]
      exact mem_ite_zero.mpr ⟨scans, scanning_started .hosts _ _⟩
    · contradiction
  case h_2 =>
    cases leads
    obtain ⟨scans, inScan⟩ := mem_ite_zero.mp member
    exact mem_ite_zero.mpr
      ⟨scans, Language.append_mem_mul inScan (scanning_started .ports _ _)⟩
  case h_3 phase _ _ _ =>
    split at leads
    · rename_i same
      cases leads
      subst same
      exact reach_probing (Or.inl rfl)
        (fun rest inScan => by simpa using scanning_found _ _ _ inScan) member
    · contradiction
  case h_4 phase _ _ =>
    split at leads
    · rename_i same
      cases leads
      subst same
      exact reach_probing (Or.inl rfl)
        (fun rest inScan => by simpa using scanning_progress _ _ inScan) member
    · contradiction
  case h_5 phase _ _ _ =>
    split at leads
    · rename_i same
      cases leads
      subst same
      exact reach_probing (Or.inr rfl)
        (fun rest inScan => by simpa using scanned_finished _ _ _ inScan) member
    · contradiction
  case h_6 =>
    split at leads
    · contradiction
    · rename_i scans_
      cases leads
      rw [(Language.mem_one word).mp member]
      have noScans : scans isScanning = 1 := if_neg scans_
      simp only [reach, noScans, one_mul]
      exact asked_started
  case h_7 =>
    cases leads
    obtain ⟨isScan, inScans⟩ := mem_ite_zero.mp member
    have bothScans : scans isScanning = scanned .hosts * scanned .ports := if_pos isScan
    simp only [reach, bothScans]
    exact Language.append_mem_mul inScans asked_started
  case h_8 =>
    cases leads
    exact append_mem_mul_right member fun rest inAsked => concat_mem inAsked _
  case h_9 =>
    cases leads
    exact append_mem_mul_right member fun rest inAsked => asked_finished inAsked
  case h_10 =>
    cases leads
    exact append_mem_mul_right member fun rest inAsked => concat_mem inAsked _
  case h_11 => contradiction

/-! ## Every stage is on the way to the end of the run -/

theorem Stage.beginnings_of_tell {stage next : Stage} (event : Event)
    (leads : stage.tell isScanning event = some next)
    (onTheWay : ∀ {word}, word ∈ next.reach isScanning → word ∈ beginnings (fullRun isScanning))
    (member : word ∈ stage.reach isScanning) : word ∈ beginnings (fullRun isScanning) := by
  obtain ⟨rest, whole⟩ := onTheWay (reach_tell leads member)
  exact ⟨event.kind :: rest, by simpa using whole⟩

/-- What a run was told by some stage is the beginning of a full run. -/
theorem Stage.reach_le_beginnings {stage : Stage} (member : word ∈ stage.reach isScanning) :
    word ∈ beginnings (fullRun isScanning) := by
  have surveyed : ∀ {word}, word ∈ Stage.surveyed.reach isScanning →
      word ∈ beginnings (fullRun isScanning) :=
    fun {word} whole => ⟨[], by rwa [List.append_nil]⟩
  have asking : ∀ {word}, word ∈ Stage.asking.reach isScanning →
      word ∈ beginnings (fullRun isScanning) :=
    beginnings_of_tell (.serversFinished 0 0) rfl surveyed
  have awaiting : ∀ {word}, word ∈ Stage.awaiting.reach isScanning →
      word ∈ beginnings (fullRun isScanning) :=
    beginnings_of_tell (.endpointsFinished 0 0 "" 0 none) rfl asking
  have probedPorts : ∀ {word}, word ∈ (Stage.probed .ports).reach isScanning →
      word ∈ beginnings (fullRun isScanning) :=
    beginnings_of_tell (.serversStarted 0) rfl asking
  have probingPorts : ∀ {word}, word ∈ (Stage.probing .ports).reach isScanning →
      word ∈ beginnings (fullRun isScanning) :=
    beginnings_of_tell (.scanFinished .ports 0 0) rfl probedPorts
  have probedHosts : ∀ {word}, word ∈ (Stage.probed .hosts).reach isScanning →
      word ∈ beginnings (fullRun isScanning) :=
    beginnings_of_tell (.scanStarted .ports 0 0) rfl probingPorts
  have probingHosts : ∀ {word}, word ∈ (Stage.probing .hosts).reach isScanning →
      word ∈ beginnings (fullRun isScanning) :=
    beginnings_of_tell (.scanFinished .hosts 0 0) rfl probedHosts
  cases stage with
  | begun =>
      cases isScanning
      · exact beginnings_of_tell (.serversStarted 0) rfl asking member
      · exact beginnings_of_tell (.scanStarted .hosts 0 0) rfl probingHosts member
  | probing phase =>
      cases phase with
      | hosts => exact probingHosts member
      | ports => exact probingPorts member
  | probed phase =>
      cases phase with
      | hosts => exact probedHosts member
      | ports => exact probedPorts member
  | asking => exact asking member
  | awaiting => exact awaiting member
  | surveyed => exact surveyed member
  | handed => exact surveyed member
  | refused => exact surveyed member

/-- The last event of a run completes the protocol. -/
theorem protocol_of_running {stage : Stage} {kind : ProgressKind}
    (member : word ∈ (Position.running stage).reach isScanning)
    (last : kind = .cancelled ∨
      stage.reach isScanning = fullRun isScanning ∧ (kind = .finished ∨ kind = .error)) :
    word ++ [kind] ∈ protocol isScanning := by
  refine append_mem_mul_right member fun tail inTail => Or.inr ?_
  apply append_mem_mul_right inTail
  intro run inRun
  rcases last with rfl | ⟨full, rfl | rfl⟩
  · exact Or.inl (concat_mem (Stage.reach_le_beginnings inRun) _)
  · exact Or.inr (Language.append_mem_mul (full ▸ inRun) (Or.inl (mem_told _)))
  · exact Or.inr (Language.append_mem_mul (full ▸ inRun) (Or.inr (mem_told _)))

/-- An event takes a request to where it leads. -/
theorem Position.reach_tell {position next : Position} {event : Event}
    (leads : position.tell isScanning event = some next)
    (member : word ∈ position.reach isScanning) :
    word ++ [event.kind] ∈ next.reach isScanning := by
  unfold Position.tell at leads
  split at leads
  case h_1 =>
    cases leads
    have one : word ∈ (1 : Language ProgressKind) * (told .pending)∗ := by rwa [one_mul]
    have two := append_mem_mul_kstar one (mem_told .pending)
    rwa [one_mul] at two
  case h_2 =>
    cases leads
    exact Language.append_mem_mul member (Or.inl (mem_told _))
  case h_3 =>
    cases leads
    simp only [reach, Stage.reach, mul_one]
    exact Language.append_mem_mul member (mem_told _)
  case h_4 =>
    split at leads
    · contradiction
    · cases leads
      exact protocol_of_running member (Or.inl rfl)
  case h_5 =>
    cases leads
    exact protocol_of_running member (Or.inr ⟨rfl, Or.inl rfl⟩)
  case h_6 =>
    cases leads
    exact protocol_of_running member (Or.inr ⟨rfl, Or.inr rfl⟩)
  case h_7 stage _ _ _ _ =>
    obtain ⟨further, onward, rfl⟩ := Option.map_eq_some_iff.mp leads
    exact append_mem_mul_right member fun tail inTail =>
      append_mem_mul_right inTail fun run inRun => Stage.reach_tell onward inRun
  case h_8 => contradiction

/-- A request that waits may be told how many are ahead of it. -/
theorem Position.reach_pending (member : word ∈ Position.waiting.reach isScanning) :
    word ++ [.pending] ∈ Position.waiting.reach isScanning := by
  have leads : Position.tell isScanning .waiting (.pending 0) = some .waiting := rfl
  exact reach_tell leads member

/-- What a request was told by some position is the beginning of a word of the
protocol. -/
theorem Position.reach_le_beginnings {position : Position}
    (member : word ∈ position.reach isScanning) : word ∈ beginnings (protocol isScanning) := by
  cases position with
  | waiting =>
      have leads : Position.tell isScanning .waiting .cancelled = some (.ended .cancelled) := rfl
      exact ⟨_, reach_tell leads member⟩
  | running stage => exact ⟨_, protocol_of_running member (Or.inl rfl)⟩
  | ended ending => exact ⟨[], by rwa [List.append_nil]⟩

/-! ## First events -/

/-- What does not begin with waiting does not wait. -/
theorem mem_of_not_pending {language : Language ProgressKind} {kind : ProgressKind}
    {rest : List ProgressKind} (member : kind :: rest ∈ (told .pending)∗ * language)
    (apart : kind ≠ .pending) : kind :: rest ∈ language := by
  obtain ⟨waiting, inStar, after, inLanguage, equal⟩ := Language.mem_mul.mp member
  obtain ⟨words, rfl, each⟩ := Language.mem_kstar.mp inStar
  cases words with
  | nil =>
      rw [List.flatten_nil, List.nil_append] at equal
      exact equal ▸ inLanguage
  | cons first more =>
      have alone : first = [.pending] := each first List.mem_cons_self
      rw [alone] at equal
      exact absurd (List.head_eq_of_cons_eq equal).symm apart

theorem head_of_mem_told_mul {language : Language ProgressKind} {kind first : ProgressKind}
    {rest : List ProgressKind} (member : first :: rest ∈ told kind * language) : first = kind := by
  obtain ⟨front, isKind, back, -, equal⟩ := Language.mem_mul.mp member
  have alone : front = [kind] := isKind
  rw [alone] at equal
  exact (List.head_eq_of_cons_eq equal).symm

/-- The first that is told of a request is that it waits, was cancelled or has started. -/
theorem first_of_protocol {kind : ProgressKind} {rest : List ProgressKind}
    (member : kind :: rest ∈ protocol isScanning) :
    kind = .pending ∨ kind = .cancelled ∨ kind = .started := by
  by_cases pending : kind = .pending
  · exact Or.inl pending
  · rcases mem_of_not_pending member pending with cancelled | started
    · have alone : kind :: rest = [.cancelled] := cancelled
      exact Or.inr (Or.inl (List.head_eq_of_cons_eq alone))
    · exact Or.inr (Or.inr (head_of_mem_told_mul started))

/-- Nothing is told of a request that was cancelled before it started. -/
theorem Position.of_cancelled {position : Position} {rest : List ProgressKind}
    (member : .cancelled :: rest ∈ position.reach isScanning) :
    (∃ ending, position = .ended ending) ∧ rest = [] := by
  cases position with
  | waiting =>
      have one : .cancelled :: rest ∈ (told .pending)∗ * (1 : Language ProgressKind) := by
        rwa [mul_one]
      have empty := (Language.mem_one _).mp (mem_of_not_pending one (by decide))
      contradiction
  | running stage =>
      have isStarted := head_of_mem_told_mul (mem_of_not_pending member (by decide))
      contradiction
  | ended ending =>
      rcases mem_of_not_pending member (by decide) with cancelled | started
      · have alone : .cancelled :: rest = [ProgressKind.cancelled] := cancelled
        exact ⟨⟨ending, rfl⟩, List.tail_eq_of_cons_eq alone⟩
      · have isStarted := head_of_mem_told_mul started
        contradiction

/-! ## Requests that do not start -/

/-- A request that runs was told that it has started. -/
theorem Position.started_of_running {stage : Stage}
    (member : word ∈ (Position.running stage).reach isScanning) : .started ∈ word := by
  obtain ⟨waiting, -, run, inRun, rfl⟩ := Language.mem_mul.mp member
  obtain ⟨front, isStarted, back, -, rfl⟩ := Language.mem_mul.mp inRun
  have alone : front = [.started] := isStarted
  simp [alone]

/-- One that ends without having started ends as cancelled. -/
theorem getLast?_of_unstarted (member : word ∈ protocol isScanning)
    (unstarted : .started ∉ word) : word.getLast? = some .cancelled := by
  obtain ⟨waiting, -, last, inLast, rfl⟩ := Language.mem_mul.mp member
  rcases inLast with cancelled | started
  · have alone : last = [.cancelled] := cancelled
    rw [alone, List.getLast?_concat]
  · obtain ⟨front, isStarted, back, -, rfl⟩ := Language.mem_mul.mp started
    have alone : front = [.started] := isStarted
    simp [alone] at unstarted

end FieldSurvey.Survey
