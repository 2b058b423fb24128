import FieldSurvey.Proofs.App.Turn

/-!
# The registry as a history

Whatever turns are taken, the batches that were taken are those of the requests that have
finished, in the order in which they did; those that were reconciled come first, and the
registry is what is left by reconciling them one after the other.  Once the application is
shut down nothing waits, so the registry is the history of all requests that finished.
-/

namespace FieldSurvey.App

open Model (ResultRecord)
open Registry (Occasion replay)
open Surveyor (Orderly Keeps Working finished kindsOf)

/-- Whether a batch is the one that a request has, or had, to hand over. -/
def Published (app : App) (turns : List Turn) (ticket : Nat) (batch : List ResultRecord) : Prop :=
  ∃ earlier later, turns = earlier ++ later ∧
    (play earlier app).1.surveyor.handing = some (ticket, batch)

/-- An application that was shut down, and the batches that its registry stems from. -/
structure Accounted (settings : Settings) (app : App) (turns : List Turn)
    (batches : List (List ResultRecord)) : Prop where
  /-- a request finishes once -/
  once : (finished (play turns app).2).Nodup
  /-- and is told nothing afterwards -/
  last : ∀ ticket ∈ finished (play turns app).2,
    (kindsOf (some ticket) (play turns app).2).getLast? = some .finished
  /-- the batches are those of the requests that finished, in that order -/
  published : List.Forall₂ (Published app turns) (finished (play turns app).2) batches
  /-- no request has another batch -/
  unique : ∀ ticket batch other, Published app turns ticket batch →
    Published app turns ticket other → batch = other
  /-- the registry is what is left by reconciling them, on some occasions -/
  registry : ∃ history : List (Occasion × List ResultRecord), history.map Prod.snd = batches ∧
    (play turns app).1.registry = replay settings.discoverer.id
      settings.registry.maxUpdateRetries.toNat history
  /-- and, but for dates, on any others -/
  undated : ∀ history : List (Occasion × List ResultRecord), history.map Prod.snd = batches →
    (play turns app).1.registry.undated = (replay settings.discoverer.id
      settings.registry.maxUpdateRetries.toNat history).undated

/-! ## Runs -/

/-- What holds of an application whatever turns were taken. -/
structure Sound (app : App) (turns : List Turn) : Prop where
  attempts : (play turns app).1.attempts = app.attempts
  keeps : Keeps app.surveyor ((play turns app).1.surveyor, (play turns app).2)
  working : Working (play turns app).1.surveyor

variable {app : App}

theorem Sound.proceeds {turns : List Turn} (sound : Sound app turns) (turn : Turn) :
    Proceeds (play turns app).1 (turn.act (play turns app).1) :=
  proceeds_act sound.keeps.orderly sound.working turn

theorem sound_play (orderly : Orderly app.surveyor) (working : Working app.surveyor)
    (turns : List Turn) : Sound app turns := by
  induction turns using List.reverseRecOn with
  | nil => exact ⟨rfl, .refl orderly, working⟩
  | append_singleton front last ih =>
      have proceeds := ih.proceeds last
      constructor
      · rw [play_concat]
        exact proceeds.attempts.trans ih.attempts
      · rw [play_concat]
        exact ih.keeps.trans proceeds.keeps
      · rw [play_concat]
        exact proceeds.working

/-! ## The batch of a request -/

/-- A worker hands a batch over until its request has ended. -/
theorem handing_or_gone (sound : ∀ turns, Sound app turns) {earlier : List Turn} {ticket : Nat}
    {batch : List ResultRecord}
    (hands : (play earlier app).1.surveyor.handing = some (ticket, batch)) (more : List Turn) :
    (play (earlier ++ more) app).1.surveyor.handing = some (ticket, batch) ∨
      ticket ∉ (play (earlier ++ more) app).1.surveyor.tickets := by
  have pending := Surveyor.mem_tickets_of_handing (sound earlier).keeps.orderly hands
  have known := (sound earlier).keeps.orderly.below ticket pending
  have stays : ticket < (play (earlier ++ more) app).1.surveyor.accepted ∧
      ((play (earlier ++ more) app).1.surveyor.handing = some (ticket, batch) ∨
        ticket ∉ (play (earlier ++ more) app).1.surveyor.tickets) := by
    induction more using List.reverseRecOn with
    | nil =>
        rw [List.append_nil]
        exact ⟨known, Or.inl hands⟩
    | append_singleton front last ih =>
        obtain ⟨below, handing | gone⟩ := ih
        all_goals
          have proceeds := (sound (earlier ++ front)).proceeds last
          rw [← List.append_assoc, play_concat]
          refine ⟨Nat.lt_of_lt_of_le below proceeds.keeps.accepted, ?_⟩
        · exact proceeds.hands ticket batch handing
        · exact Or.inr (proceeds.keeps.gone below gone).1
  exact stays.2

theorem published_unique (sound : ∀ turns, Sound app turns) {turns : List Turn} {ticket : Nat}
    {batch other : List ResultRecord} (first : Published app turns ticket batch)
    (second : Published app turns ticket other) : batch = other := by
  obtain ⟨early, rest, rfl, handsEarly⟩ := first
  obtain ⟨late, restLate, split, handsLate⟩ := second
  -- Of two beginnings of the same turns, one is the longer.
  rcases List.append_eq_append_iff.mp split with ⟨more, rfl, -⟩ | ⟨more, rfl, -⟩
  · rcases handing_or_gone sound handsEarly more with same | gone
    · rw [handsLate] at same
      cases same
      rfl
    · exact absurd (Surveyor.mem_tickets_of_handing (sound _).keeps.orderly handsLate) gone
  · rcases handing_or_gone sound handsLate more with same | gone
    · rw [handsEarly] at same
      cases same
      rfl
    · exact absurd (Surveyor.mem_tickets_of_handing (sound _).keeps.orderly handsEarly) gone

theorem Published.concat {turns : List Turn} {ticket : Nat} {batch : List ResultRecord}
    (published : Published app turns ticket batch) (turn : Turn) :
    Published app (turns ++ [turn]) ticket batch := by
  obtain ⟨earlier, later, rfl, hands⟩ := published
  exact ⟨earlier, later ++ [turn], by rw [List.append_assoc], hands⟩

/-! ## Batches that were taken -/

/-- A request that has finished, with its batch. -/
structure Settled (app : App) (turns : List Turn) (entry : Nat × List ResultRecord) : Prop where
  published : Published app turns entry.1 entry.2
  known : entry.1 < (play turns app).1.surveyor.accepted
  gone : entry.1 ∉ (play turns app).1.surveyor.tickets
  last : (kindsOf (some entry.1) (play turns app).2).getLast? = some .finished

/-- A request that has finished stays as it is. -/
theorem Settled.concat {turns : List Turn} {entry : Nat × List ResultRecord}
    (settled : Settled app turns entry) (sound : Sound app turns) (turn : Turn) :
    Settled app (turns ++ [turn]) entry := by
  have proceeds := sound.proceeds turn
  obtain ⟨gone, silent⟩ := proceeds.keeps.gone settled.known settled.gone
  constructor
  · exact settled.published.concat turn
  · rw [play_concat]
    exact Nat.lt_of_lt_of_le settled.known proceeds.keeps.accepted
  · rw [play_concat]
    exact gone
  · rw [play_concat, Surveyor.kindsOf_append, silent, List.append_nil]
    exact settled.last

/-- The batches that were taken, with their requests, and those that were reconciled. -/
structure Recounts (app : App) (turns : List Turn) (handed : List (Nat × List ResultRecord))
    (history : List (Occasion × List ResultRecord)) : Prop where
  told : finished (play turns app).2 = handed.map Prod.fst
  delivered : handed.map Prod.snd =
    history.map Prod.snd ++ (play turns app).1.delivery.batches
  registry : (play turns app).1.registry =
    replay app.surveyor.discoverer.id app.attempts history
  nodup : (handed.map Prod.fst).Nodup
  settled : ∀ entry ∈ handed, Settled app turns entry

variable {turns : List Turn} {handed : List (Nat × List ResultRecord)}
  {history : List (Occasion × List ResultRecord)}

/-- A turn in which no request finishes. -/
theorem Recounts.concat_unfinished (recounts : Recounts app turns handed history)
    (sound : Sound app turns) {turn : Turn}
    (unfinished : Surveyor.Unfinished (turn.act (play turns app).1).2)
    {later : List (Occasion × List ResultRecord)}
    (delivered : history.map Prod.snd ++ (play turns app).1.delivery.batches =
      later.map Prod.snd ++ (turn.act (play turns app).1).1.delivery.batches)
    (registry : (turn.act (play turns app).1).1.registry =
      replay app.surveyor.discoverer.id app.attempts later) :
    Recounts app (turns ++ [turn]) handed later where
  told := by
    rw [play_concat, Surveyor.finished_append, unfinished.finished_eq_nil, List.append_nil]
    exact recounts.told
  delivered := by
    rw [play_concat, recounts.delivered]
    exact delivered
  registry := by
    rw [play_concat]
    exact registry
  nodup := recounts.nodup
  settled entry member := (recounts.settled entry member).concat sound turn

/-- A turn in which a batch is taken. -/
theorem Recounts.concat_handed (recounts : Recounts app turns handed history)
    (sound : Sound app turns) {turn : Turn} {ticket : Nat} {batch : List ResultRecord}
    (hands : (play turns app).1.surveyor.handing = some (ticket, batch))
    (told : finished (turn.act (play turns app).1).2 = [ticket])
    (last : kindsOf (some ticket) (turn.act (play turns app).1).2 = [.finished])
    (gone : ticket ∉ (turn.act (play turns app).1).1.surveyor.tickets)
    (batches : (turn.act (play turns app).1).1.delivery.batches =
      (play turns app).1.delivery.batches ++ [batch])
    (registry : (turn.act (play turns app).1).1.registry = (play turns app).1.registry) :
    Recounts app (turns ++ [turn]) (handed ++ [(ticket, batch)]) history := by
  have pending := Surveyor.mem_tickets_of_handing sound.keeps.orderly hands
  have known := sound.keeps.orderly.below ticket pending
  constructor
  · rw [play_concat, Surveyor.finished_append, recounts.told, told]
    simp
  · rw [play_concat, batches, List.map_append, recounts.delivered]
    simp
  · rw [play_concat, registry]
    exact recounts.registry
  · rw [List.map_append, List.nodup_append]
    refine ⟨recounts.nodup, List.nodup_singleton ticket, ?_⟩
    rintro former member _ new rfl
    obtain ⟨entry, inHanded, rfl⟩ := List.mem_map.mp member
    have same : entry.1 = ticket := List.mem_singleton.mp new
    exact (recounts.settled entry inHanded).gone (same ▸ pending)
  · intro entry member
    rcases List.mem_append.mp member with old | new
    · exact (recounts.settled entry old).concat sound turn
    · rw [List.mem_singleton.mp new]
      constructor
      · exact ⟨turns, [turn], rfl, hands⟩
      · rw [play_concat]
        exact Nat.lt_of_lt_of_le known (sound.proceeds turn).keeps.accepted
      · rw [play_concat]
        exact gone
      · rw [play_concat, Surveyor.kindsOf_append, last]
        exact List.getLast?_concat

theorem exists_recounts (sound : ∀ turns, Sound app turns)
    (noBatches : app.delivery.batches = []) (noEntries : app.registry = {}) (turns : List Turn) :
    ∃ handed history, Recounts app turns handed history := by
  induction turns using List.reverseRecOn with
  | nil =>
      refine ⟨[], [], ?_⟩
      exact
        { told := rfl
          delivered := noBatches.symm
          registry := noEntries
          nodup := List.nodup_nil
          settled := fun _ member => absurd member List.not_mem_nil }
  | append_singleton front last ih =>
      obtain ⟨handed, history, recounts⟩ := ih
      have here := sound front
      cases (here.proceeds last).moves with
      | none unfinished batches registry =>
          refine ⟨handed, history, recounts.concat_unfinished here unfinished ?_ ?_⟩
          · rw [batches]
          · rw [registry, recounts.registry]
      | handed ticket batch hands told final gone batches registry =>
          exact ⟨_, _, recounts.concat_handed here hands told final gone batches registry⟩
      | reconciled occasion batch unfinished batches registry =>
          refine ⟨handed, history ++ [(occasion, batch)],
            recounts.concat_unfinished here unfinished ?_ ?_⟩
          · rw [batches]
            simp
          · rw [registry, recounts.registry, here.attempts, here.keeps.discoverer]
            simp [replay]

/-! ## Shutting down -/

theorem eq_of_start {settings : Settings} {isContainer : Bool} {now : Nat}
    (started : App.start settings isContainer now = .ok app) :
    ∃ capacity initialDelay reportInterval,
      app = { surveyor := Surveyor.start settings.discoverer capacity initialDelay reportInterval
                isContainer now
              attempts := settings.registry.maxUpdateRetries.toNat } := by
  unfold App.start at started
  cases checked : settings.check with
  | error fault =>
      rw [checked] at started
      contradiction
  | ok _ =>
      rw [checked] at started
      cases started
      exact ⟨_, _, _, rfl⟩

theorem sound_of_start {settings : Settings} {isContainer : Bool} {now : Nat}
    (started : App.start settings isContainer now = .ok app) (turns : List Turn) :
    Sound app turns := by
  obtain ⟨capacity, initialDelay, reportInterval, rfl⟩ := eq_of_start started
  apply sound_play
  · exact Surveyor.orderly_start _ _ _ _ _ _
  · exact Surveyor.working_start _ _ _ _ _ _

/-- Once an application is shut down, its registry is the history of the requests that
finished, whatever turns were taken since it was started.  A shutdown closes the delivery
and returns when no batch is left. -/
theorem shut_down_accounted {settings : Settings} {isContainer : Bool} {now : Nat}
    (started : App.start settings isContainer now = .ok app) (turns : List Turn)
    (isOver : (play turns app).1.delivery.isOver) :
    ∃ batches, Accounted settings app turns batches := by
  have sound := sound_of_start started
  obtain ⟨capacity, initialDelay, reportInterval, same⟩ := eq_of_start started
  obtain ⟨handed, history, recounts⟩ :=
    exists_recounts sound (by rw [same]) (by rw [same]) turns
  have noneLeft : (play turns app).1.delivery.batches = [] := by
    unfold Registry.Delivery.isOver at isOver
    rw [Bool.and_eq_true, List.isEmpty_iff] at isOver
    exact isOver.2
  have batches : history.map Prod.snd = handed.map Prod.snd := by
    rw [recounts.delivered, noneLeft, List.append_nil]
  have registry : (play turns app).1.registry = replay settings.discoverer.id
      settings.registry.maxUpdateRetries.toNat history := by
    rw [recounts.registry, same]
    rfl
  refine ⟨handed.map Prod.snd, ?_⟩
  constructor
  · rw [recounts.told]
    exact recounts.nodup
  · rw [recounts.told]
    intro ticket member
    obtain ⟨entry, inHanded, rfl⟩ := List.mem_map.mp member
    exact (recounts.settled entry inHanded).last
  · rw [recounts.told, List.forall₂_map_left_iff, List.forall₂_map_right_iff, List.forall₂_same]
    exact fun entry member => (recounts.settled entry member).published
  · exact fun _ _ _ => published_unique sound
  · exact ⟨history, batches, registry⟩
  · intro retold sameBatches
    rw [registry]
    exact Registry.undated_replay _ _ (batches.trans sameBatches.symm)

/-- An application in its default settings. -/
def smallApp : App where
  surveyor := Surveyor.start {} 1000 20000 3000 false 0
  attempts := 3

/-- What a network answers that knows one server. -/
def oneServer : (wait : Survey.Wait) → wait.Answer
  | .resolve _ => some [.v4 .loopback]
  | .reverse _ => none
  | .find target _ =>
    .ok [{ accessibleUrl := target.url.toText
           description :=
            { endpointUrl := target.url.toText, server := { applicationUri := "urn:plc" }
              securityMode := .none } }]
  | .publish _ => .ok ()

/-- Two requests, the first of which finds an endpoint while the second is cancelled, and a
shutdown. -/
def smallCourse : List Turn :=
  let moment : Surveyor.Moment := ⟨0, .epoch⟩
  let declared : Model.Request :=
    { mode := some .url, config := some { discoveryUrls := some ["opc.tcp://plc:4840"] } }
  let answered : Turn := .survey (.resume moment (.answered oneServer))
  [.survey (.discover declared {}), .survey (.discover { id := some "second" } {}),
    .survey (.take moment), .survey (.cancel "second"), answered, answered, answered,
    .survey .shutDown, .survey (.take moment), .close, .reconcile ⟨toString, .epoch⟩]

theorem small_course_accounted :
    App.start {} false 0 = .ok smallApp ∧ (play smallCourse smallApp).1.delivery.isOver ∧
      finished (play smallCourse smallApp).2 = [0] ∧
      (play smallCourse smallApp).1.registry.endpoints.entries.map
        (fun entry => (entry.2.endpointUrl, entry.2.visibility)) =
          [("opc.tcp://plc:4840", .found)] ∧
      ∃ batches, Accounted {} smallApp smallCourse batches := by
  have started : App.start {} false 0 = .ok smallApp := by rfl
  have isOver : (play smallCourse smallApp).1.delivery.isOver := by decide +kernel
  exact ⟨started, isOver, by decide +kernel, by decide +kernel,
    shut_down_accounted started smallCourse isOver⟩

end FieldSurvey.App
