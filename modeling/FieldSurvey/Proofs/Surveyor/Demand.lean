import FieldSurvey.Proofs.Surveyor.Renewal

/-!
# Scans on demand

Who asks for a scan has the timer armed for the same moment.  The timer fires in time unless
the worker arms it anew before: it does so when the last of the scans that were pending ends,
and the next one then waits for as long as the plan of that scan says.
-/

namespace FieldSurvey.Surveyor

open Survey (Ending Event Status Wake)

variable {surveyor before after : Surveyor} {now ticket : Nat} {job : Job}

/-! ## What the worker recalls -/

/-- Whether a job is the one that was submitted under a ticket, if that is still pending. -/
def Recalls (surveyor : Surveyor) (ticket : Nat) (job : Job) : Prop :=
  ∀ twin, (twin, ticket) ∈ surveyor.submitted → twin = job.renew

/-- A surveyor whose worker carries out the requests that were submitted. -/
def Mindful (surveyor : Surveyor) : Prop :=
  ∀ ticket job activity, surveyor.worker = .running ticket job activity →
    surveyor.Recalls ticket job

theorem recalls_of_job? (orderly : Orderly surveyor) (found : surveyor.job? ticket = some job) :
    surveyor.Recalls ticket job := by
  obtain ⟨entry, member, hasTicket, rfl⟩ := mem_of_job? found
  have nodup : (surveyor.pending.map Entry.ticket).Nodup :=
    orderly.increasing.imp fun less => Nat.ne_of_lt less
  intro twin submitted
  obtain ⟨other, otherMember, same⟩ := List.mem_map.mp submitted
  obtain ⟨rfl, sameTicket⟩ := Prod.mk.inj same
  rw [List.inj_on_of_nodup_map nodup otherMember member (sameTicket.trans hasTicket.symm)]

theorem mindful_settle (recalls : surveyor.Recalls ticket job) (now : Nat)
    (step : List Event × Status) : Mindful (surveyor.settle now ticket job step).1 := by
  rcases step with ⟨events, activity | ending⟩
  · intro other twin sameActivity works
    obtain ⟨rfl, rfl, -⟩ := Worker.running.inj works
    exact recalls
  · intro other twin activity works
    simp only [settle, finish] at works
    split at works <;> contradiction

/-- A request that is accepted has another ticket than the one that runs. -/
theorem Mindful.admits (mindful : Mindful before) (orderly : Orderly before)
    (worker : after.worker = before.worker) {jobs : List Job}
    (admits : Admits before jobs after) : Mindful after := by
  intro ticket job activity works twin member
  rw [worker] at works
  rcases List.mem_append.mp (admits.submitted.subset member) with old | new
  · exact mindful ticket job activity works twin old
  · have below := orderly.below ticket (Begun.of_orderly orderly works).mem_tickets
    exact absurd (List.le_snd_of_mem_zipIdx new) (Nat.not_le.mpr below)

theorem Mindful.act (mindful : Mindful surveyor) (orderly : Orderly surveyor) (turn : Turn) :
    Mindful (turn.act surveyor).1 := by
  by_cases works : turn.isWork
  · cases turn with
    | take now =>
        have taken := takes orderly now
        simp only [Turn.act]
        generalize surveyor.take now = step at taken ⊢
        cases taken with
        | busy => exact mindful
        | retires idle stopping =>
            intro ticket job activity works
            rw [(drained_retire orderly idle).worker] at works
            contradiction
        | rests => exact mindful
        | begins ticket rest job idle queued found =>
            have recalls : surveyor.Recalls ticket job := recalls_of_job? orderly found
            have dequeued : Recalls { surveyor with queue := rest } ticket job := recalls
            exact mindful_settle dequeued _ _
    | resume now wake =>
        have resumed := resumes surveyor now wake
        simp only [Turn.act]
        generalize surveyor.resume now wake = step at resumed ⊢
        cases resumed with
        | settles ticket job activity works =>
            exact mindful_settle (mindful ticket job activity works) _ _
        | rests => exact mindful
    | _ => contradiction
  · exact mindful.admits orderly (aside_act turn works surveyor).worker (admits_act orderly turn)

theorem Reachable.mindful (reachable : Reachable surveyor) : Mindful surveyor := by
  induction reachable with
  | start => intro ticket job activity works; contradiction
  | act turn before ih => exact ih.act before.orderly turn

/-! ## Turns that keep a firing in store -/

/-- A turn at a given moment of callers or the worker, by which the surveyor is not shut down
and its standing request is not turned off. -/
def Turn.IsCalm (now : Nat) : Turn → Prop
  | configure mode _ _ moment => mode ≠ .off ∧ moment = now
  | scan moment => moment = now
  | take moment => moment.millis = now
  | resume moment _ => moment.millis = now
  | shutDown | fire _ => False
  | _ => True

/-- Whether somebody asks for a scan. -/
def Turn.asks : Turn → Bool
  | scan _ => true
  | _ => false

/-- Whether the last of the scans ends in a turn and has the next one wait. -/
structure Turn.PutsOff (turn : Turn) (surveyor : Surveyor) : Prop where
  waits : ∃ entry ∈ surveyor.pending, entry.job.isScan ∧ entry.job.idleMillis ≠ 0
  last : (turn.act surveyor).1.hasScan = false

/-- Whether a scan that was asked for is put off in a sequence of turns, and nobody asks for one
any more. -/
def PutOff : List Turn → Surveyor → Prop
  | [], _ => False
  | turn :: rest, surveyor =>
    turn.PutsOff surveyor ∧ (∀ later ∈ rest, later.asks = false) ∨ PutOff rest (turn.act surveyor).1

/-- What becomes of the timer and of the scans in a step in which nobody asks for a scan. -/
inductive Passes (now : Nat) (before after : Surveyor) : Prop
  | goesOn (timer : after.timer = before.timer) (hasScan : after.hasScan = before.hasScan)
  | ends (idle : Nat) (timer : after.timer = before.timer.arm now idle)
    (pending : before.hasScan)
    (waits : ∀ entry ∈ before.pending, entry.job.isScan → entry.job.idleMillis = idle)
    (last : after.hasScan = false)

theorem passes_submit (surveyor : Surveyor) (other : job.isScan = false) (now : Nat) :
    Passes now surveyor (surveyor.submit job).2.1 := by
  unfold submit
  split
  · exact .goesOn rfl rfl
  · refine .goesOn rfl ?_
    dsimp only
    rw [hasScan_accept, other, Bool.or_false]

/-- A scan that ends without leaving another one behind was the only one. -/
theorem passes_finish (begun : Begun surveyor ticket) (knows : surveyor.Knows ticket job)
    (recalls : surveyor.Recalls ticket job) (now : Nat) (ending : Ending) :
    Passes now surveyor (surveyor.finish now ticket job ending) := by
  have left : ∀ entry ∈ (surveyor.close ticket ending).pending, entry ∈ surveyor.pending :=
    fun entry member => (List.mem_filter.mp member).1
  have same : (surveyor.released ticket ending).hasScan = (surveyor.close ticket ending).hasScan :=
    rfl
  rw [finish_eq]
  split
  case isTrue isLast =>
    obtain ⟨isScan, nobody⟩ := (Bool.and_eq_true _ _).mp isLast
    have nobody : (surveyor.released ticket ending).hasScan = false := by simpa using nobody
    have ends : ∀ entry ∈ surveyor.pending, entry.job.isScan → entry.ticket = ticket := by
      intro entry member scan
      by_contra stays
      have still : (surveyor.released ticket ending).hasScan :=
        hasScan_iff.mpr ⟨entry, List.mem_filter.mpr ⟨member, bne_iff_ne.mpr stays⟩, scan⟩
      rw [nobody] at still
      contradiction
    refine .ends job.idleMillis rfl ?_ ?_ nobody
    · obtain ⟨entry, member, isEnding⟩ := List.mem_map.mp begun.mem_tickets
      exact hasScan_iff.mpr ⟨entry, member, (knows entry member isEnding).trans isScan⟩
    · intro entry member scan
      have isEnding := ends entry member scan
      have twin : entry.job.renew = job.renew :=
        recalls _ (List.mem_map.mpr ⟨entry, member, by rw [isEnding]⟩)
      calc
        entry.job.idleMillis = entry.job.renew.idleMillis := rfl
        _ = job.renew.idleMillis := by rw [twin]
        _ = job.idleMillis := rfl
  case isFalse stays =>
    refine .goesOn rfl (Bool.eq_iff_iff.mpr ⟨?_, ?_⟩)
    · intro pending
      obtain ⟨entry, member, scan⟩ := hasScan_iff.mp pending
      exact hasScan_iff.mpr ⟨entry, left entry member, scan⟩
    · intro pending
      by_cases scan : job.isScan
      · simpa [scan] using stays
      · exact same ▸ hasScan_close knows (Bool.eq_false_iff.mpr scan) ending pending

theorem passes_settle (begun : Begun surveyor ticket) (knows : surveyor.Knows ticket job)
    (recalls : surveyor.Recalls ticket job) (now : Nat) (step : List Event × Status) :
    Passes now surveyor (surveyor.settle now ticket job step).1 := by
  rcases step with ⟨events, activity | ending⟩
  · exact .goesOn rfl rfl
  · exact passes_finish begun knows recalls now ending

theorem passes_take (orderly : Orderly surveyor) (isOpen : surveyor.isStopping = false)
    (moment : Moment) : Passes moment.millis surveyor (surveyor.take moment).1 := by
  have taken := takes orderly moment
  generalize surveyor.take moment = step at taken ⊢
  cases taken with
  | busy => exact .goesOn rfl rfl
  | retires idle stopping =>
      rw [isOpen] at stopping
      contradiction
  | rests => exact .goesOn rfl rfl
  | begins ticket rest job idle queued found =>
      have begun : Begun { surveyor with queue := rest } ticket := .of_taken orderly idle queued
      have knows : surveyor.Knows ticket job := knows_of_job? orderly found
      have recalls : surveyor.Recalls ticket job := recalls_of_job? orderly found
      have passes := passes_settle begun knows recalls moment.millis
        (Survey.advance moment.timestamp job.isCancelled
          (Surveyor.survey { surveyor with queue := rest } job).run)
      cases passes with
      | goesOn timer hasScan => exact .goesOn timer hasScan
      | ends idle timer pending waits last => exact .ends idle timer pending waits last

theorem passes_resume (reachable : Reachable surveyor) (moment : Moment) (wake : Wake) :
    Passes moment.millis surveyor (surveyor.resume moment wake).1 := by
  have resumed := resumes surveyor moment wake
  generalize surveyor.resume moment wake = step at resumed ⊢
  cases resumed with
  | settles ticket job activity works =>
      exact passes_settle (.of_orderly reachable.orderly works)
        (reachable.paced.worker ticket job activity works)
        (reachable.mindful ticket job activity works) _ _
  | rests => exact .goesOn rfl rfl

/-! ## Surveyors that were asked for a scan -/

/-- A surveyor that was asked for a scan: its timer is armed, and unless it is due no scan is
pending that could put it off. -/
structure Asked (now : Nat) (surveyor : Surveyor) : Prop where
  reachable : Reachable surveyor
  isOpen : surveyor.isStopping = false
  on : surveyor.standing.plan.mode ≠ .off
  armed : surveyor.timer.isArmed
  bare : surveyor.timer.isDue now ∨ surveyor.hasScan = false

theorem Passes.isDue (asked : Asked now before) (passes : Passes now before after) :
    after.timer.isDue now ↔ before.timer.isDue now ∧
      ¬((∃ entry ∈ before.pending, entry.job.isScan ∧ entry.job.idleMillis ≠ 0) ∧
        after.hasScan = false) := by
  cases passes with
  | goesOn timer hasScan =>
      rw [timer, hasScan, and_iff_left]
      rintro ⟨⟨entry, member, scan, -⟩, nobody⟩
      rw [hasScan_iff.mpr ⟨entry, member, scan⟩] at nobody
      contradiction
  | ends idle timer pending waits last =>
      have due : before.timer.isDue now := by
        rcases asked.bare with due | nobody
        · exact due
        · rw [pending] at nobody
          contradiction
      rw [timer, Timer.isDue_arm (asked.reachable.paced.timer asked.isOpen)]
      simp only [due, last, and_true, true_and, not_exists, not_and, not_not]
      constructor
      · intro none entry member scan
        exact (waits entry member scan).trans none
      · intro none
        obtain ⟨entry, member, scan⟩ := hasScan_iff.mp pending
        exact (waits entry member scan).symm.trans (none entry member scan)

theorem passes_act (asked : Asked now surveyor) {turn : Turn} (calm : turn.IsCalm now)
    (quiet : turn.asks = false) : Passes now surveyor (turn.act surveyor).1 := by
  cases turn with
  | discover request surroundings => exact passes_submit surveyor rfl now
  | register request surroundings => exact passes_submit surveyor rfl now
  | cancel id => exact .goesOn rfl (hasScan_cancelWhere (hasId id) surveyor)
  | configure mode config surroundings moment =>
      exact .goesOn (timer_configure_of_isArmed mode config surroundings moment asked.armed)
        (hasScan_configure surveyor mode config surroundings moment)
  | scan moment => contradiction
  | shutDown => exact calm.elim
  | fire moment => exact calm.elim
  | take moment =>
      obtain rfl : moment.millis = now := calm
      exact passes_take asked.reachable.orderly asked.isOpen moment
  | resume moment wake =>
      obtain rfl : moment.millis = now := calm
      exact passes_resume asked.reachable moment wake

theorem isOn_act (asked : Asked now surveyor) {turn : Turn} (calm : turn.IsCalm now) :
    (turn.act surveyor).1.standing.plan.mode ≠ .off := by
  rw [standing_act asked.reachable.orderly]
  cases turn with
  | configure mode config surroundings moment => exact calm.1
  | _ => exact asked.on

/-- A turn of somebody who asks for a scan has the timer fire at once. -/
theorem isDue_act_of_asks (asked : Asked now surveyor) {turn : Turn} (calm : turn.IsCalm now)
    (asks : turn.asks) : (turn.act surveyor).1.timer.isDue now := by
  cases turn with
  | scan moment =>
      obtain rfl : moment = now := calm
      exact (Timer.isDue_arm (asked.reachable.paced.timer asked.isOpen) moment 0).mpr rfl
  | _ => contradiction

theorem Asked.act (asked : Asked now surveyor) {turn : Turn} (calm : turn.IsCalm now) :
    Asked now (turn.act surveyor).1 := by
  have goesOn : turn ≠ .shutDown := by
    rintro rfl
    exact calm
  have timer : (turn.act surveyor).1.timer.isArmed ∧
      ((turn.act surveyor).1.timer.isDue now ∨ (turn.act surveyor).1.hasScan = false) := by
    cases asks : turn.asks with
    | true =>
        have due := isDue_act_of_asks asked calm asks
        exact ⟨Timer.isArmed_of_isDue due, Or.inl due⟩
    | false =>
        cases passes_act asked calm asks with
        | goesOn timer hasScan =>
            rw [timer, hasScan]
            exact ⟨asked.armed, asked.bare⟩
        | ends idle timer pending waits last =>
            have isOpen := asked.reachable.paced.timer asked.isOpen
            exact ⟨timer ▸ Timer.isArmed_arm isOpen now idle, Or.inr last⟩
  exact
    { reachable := asked.reachable.act turn
      isOpen := (isStopping_act_of_ne asked.reachable.orderly goesOn).trans asked.isOpen
      on := isOn_act asked calm
      armed := timer.1
      bare := timer.2 }

theorem not_putsOff_of_asks {turn : Turn} (asks : turn.asks) : ¬turn.PutsOff surveyor := by
  cases turn with
  | scan moment =>
      rintro ⟨⟨entry, member, scan, -⟩, last⟩
      have still : ((Turn.scan moment).act surveyor).1.hasScan :=
        hasScan_iff.mpr ⟨entry, member, scan⟩
      rw [last] at still
      contradiction
  | _ => contradiction

/-- After a turn the timer is due if somebody has asked for a scan just then, or if it was and the
turn has not put it off. -/
theorem Asked.isDue_act (asked : Asked now surveyor) {turn : Turn} (calm : turn.IsCalm now) :
    (turn.act surveyor).1.timer.isDue now ↔
      ¬turn.PutsOff surveyor ∧ (surveyor.timer.isDue now ∨ turn.asks) := by
  cases asks : turn.asks with
  | true =>
      have due := isDue_act_of_asks asked calm asks
      exact iff_of_true due ⟨not_putsOff_of_asks asks, Or.inr rfl⟩
  | false =>
      have putsOff : turn.PutsOff surveyor ↔
          (∃ entry ∈ surveyor.pending, entry.job.isScan ∧ entry.job.idleMillis ≠ 0) ∧
            (turn.act surveyor).1.hasScan = false :=
        ⟨fun putsOff => ⟨putsOff.waits, putsOff.last⟩, fun both => ⟨both.1, both.2⟩⟩
      rw [(passes_act asked calm asks).isDue asked, putsOff, and_comm]
      simp

theorem Asked.play (asked : Asked now surveyor) {course : List Turn}
    (calm : ∀ turn ∈ course, turn.IsCalm now) : Asked now (play course surveyor).1 := by
  induction course generalizing surveyor with
  | nil => exact asked
  | cons turn rest ih =>
      have first := asked.act (calm turn List.mem_cons_self)
      exact ih first fun later member => calm later (List.mem_cons_of_mem turn member)

/-- After a sequence of turns the timer is due if it was or somebody has asked for a scan, and if
no such scan was put off. -/
theorem isDue_play_iff (asked : Asked now surveyor) {course : List Turn}
    (calm : ∀ turn ∈ course, turn.IsCalm now) :
    (play course surveyor).1.timer.isDue now ↔
      ¬PutOff course surveyor ∧ (surveyor.timer.isDue now ∨ ∃ turn ∈ course, turn.asks) := by
  induction course generalizing surveyor with
  | nil => simp [play, PutOff]
  | cons turn rest ih =>
      have isCalm := calm turn List.mem_cons_self
      have later := ih (asked.act isCalm) fun later member =>
        calm later (List.mem_cons_of_mem turn member)
      have never : (∀ later ∈ rest, later.asks = false) ↔ ¬∃ later ∈ rest, later.asks := by simp
      simp only [play, later, asked.isDue_act isCalm, PutOff, never, List.mem_cons,
        exists_eq_or_imp]
      by_cases again : ∃ later ∈ rest, later.asks
      · simp [again]
      · simp only [again, not_false_eq_true, and_true, or_false, not_or]
        tauto

/-! ## Before time goes on -/

/-- A firing by which the standing request is submitted, be it accepted or rejected. -/
def Submits (before after : Surveyor) : Prop :=
  Replaces before after ∨ after.stats.rejected = before.stats.rejected + 1

theorem not_submits_self (surveyor : Surveyor) : ¬Submits surveyor surveyor := by
  rintro (replaces | rejected)
  · have longer := congrArg List.length replaces.queue
    simp at longer
  · omega

theorem submits_fire_iff (reachable : Reachable surveyor)
    (on : surveyor.standing.plan.mode ≠ .off) :
    Submits surveyor (surveyor.fire now).1 ↔ surveyor.timer.isDue now := by
  have fired := fires surveyor now
  generalize (surveyor.fire now).1 = after at fired ⊢
  cases fired with
  | waits early => exact iff_of_false (not_submits_self surveyor) (by simp [early])
  | stops stopping due =>
      rw [reachable.isOpen_of_isDue due] at stopping
      contradiction
  | rests _ _ off => exact absurd off on
  | submits _ due => exact iff_of_true (Or.inl ⟨rfl, rfl, rfl⟩) due
  | retries _ due => exact iff_of_true (Or.inr rfl) due

theorem Reachable.asked (reachable : Reachable surveyor) (isOpen : surveyor.isStopping = false)
    (on : surveyor.standing.plan.mode ≠ .off) (now : Nat) : Asked now (surveyor.scan now) := by
  have due : (surveyor.scan now).timer.isDue now :=
    (Timer.isDue_arm (reachable.paced.timer isOpen) now 0).mpr rfl
  exact
    { reachable := reachable.act (.scan now)
      isOpen := isOpen
      on := on
      armed := Timer.isArmed_of_isDue due
      bare := Or.inl due }

/-- Who asks a surveyor for a scan has the standing request submitted before time goes on, in
whatever order others take their turns in between, unless the scan is put off. -/
theorem scan_submitted_iff (reachable : Reachable surveyor)
    (isOpen : surveyor.isStopping = false) (on : surveyor.standing.plan.mode ≠ .off) (now : Nat)
    {course : List Turn} (calm : ∀ turn ∈ course, turn.IsCalm now) :
    Submits (play (.scan now :: course) surveyor).1
        ((play (.scan now :: course) surveyor).1.fire now).1 ↔
      ¬PutOff course (surveyor.scan now) := by
  have asked := reachable.asked isOpen on now
  have due : (surveyor.scan now).timer.isDue now :=
    (Timer.isDue_arm (reachable.paced.timer isOpen) now 0).mpr rfl
  have after := asked.play calm
  change Submits (play course (surveyor.scan now)).1
    ((play course (surveyor.scan now)).1.fire now).1 ↔ _
  rw [submits_fire_iff after.reachable after.on, isDue_play_iff asked calm]
  exact and_iff_left (Or.inl due)

/-- A surveyor whose scan runs. -/
def scanningSurveyor : Surveyor :=
  (play [.configure .url {} {} 0, .fire 0, .take ⟨0, .epoch⟩] smallSurveyor).1

/-- A turn in which the worker of that surveyor learns that its results were taken. -/
def lastTurn : Turn :=
  .resume ⟨0, .epoch⟩ (.answered Survey.readyAnswers)

/-- A scan that was cancelled in favour of another one puts off no scan that was asked for. -/
theorem scan_submitted_beside_another :
    Reachable (play [.scan 0, .fire 0] scanningSurveyor).1 ∧
      (play [.scan 0, .fire 0] scanningSurveyor).1.isStopping = false ∧
      (play [.scan 0, .fire 0] scanningSurveyor).1.standing.plan.mode ≠ .off ∧
      (∀ turn ∈ [lastTurn], turn.IsCalm 0) ∧
      (play [.scan 0, .fire 0] scanningSurveyor).1.pending.length = 2 ∧
      (play [.scan 0, lastTurn] (play [.scan 0, .fire 0] scanningSurveyor).1).1.pending.length = 1 ∧
      Submits (play [.scan 0, lastTurn] (play [.scan 0, .fire 0] scanningSurveyor).1).1
        ((play [.scan 0, lastTurn] (play [.scan 0, .fire 0] scanningSurveyor).1).1.fire 0).1 := by
  have reachable : Reachable (play [.scan 0, .fire 0] scanningSurveyor).1 :=
    ((Reachable.start {} 1 0 0 false 0).play _).play _
  have on : (play [.scan 0, .fire 0] scanningSurveyor).1.standing.plan.mode ≠ .off := by decide
  have calm : ∀ turn ∈ [lastTurn], turn.IsCalm 0 := by
    intro turn member
    rw [List.mem_singleton.mp member]
    rfl
  refine ⟨reachable, rfl, on, calm, rfl, rfl, (scan_submitted_iff reachable rfl on 0 calm).mpr ?_⟩
  rintro (⟨putsOff, -⟩ | never)
  · have still : (lastTurn.act ((play [.scan 0, .fire 0] scanningSurveyor).1.scan 0)).1.hasScan =
        true := rfl
    rw [putsOff.last] at still
    contradiction
  · exact never

/-- A scan that is asked for while the last one is about to end waits for six hours. -/
theorem scan_put_off_by_its_predecessor :
    Reachable scanningSurveyor ∧ scanningSurveyor.isStopping = false ∧
      scanningSurveyor.standing.plan.mode ≠ .off ∧ (∀ turn ∈ [lastTurn], turn.IsCalm 0) ∧
      (play [.scan 0, lastTurn] scanningSurveyor).1.timer.dueAt = some 21600000 ∧
      ¬Submits (play [.scan 0, lastTurn] scanningSurveyor).1
        ((play [.scan 0, lastTurn] scanningSurveyor).1.fire 0).1 := by
  have reachable : Reachable scanningSurveyor := (Reachable.start {} 1 0 0 false 0).play _
  have on : scanningSurveyor.standing.plan.mode ≠ .off := by decide
  have calm : ∀ turn ∈ [lastTurn], turn.IsCalm 0 := by
    intro turn member
    rw [List.mem_singleton.mp member]
    rfl
  have timer : (play [.scan 0, lastTurn] scanningSurveyor).1.timer.dueAt = some 21600000 := rfl
  have after := (reachable.asked rfl on 0).play calm
  refine ⟨reachable, rfl, on, calm, timer, ?_⟩
  intro submits
  have due := (submits_fire_iff after.reachable after.on).mp submits
  change (play [.scan 0, lastTurn] scanningSurveyor).1.timer.isDue 0 = true at due
  rw [Timer.isDue, timer] at due
  contradiction

end FieldSurvey.Surveyor
