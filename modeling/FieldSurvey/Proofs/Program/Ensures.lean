import FieldSurvey.Proofs.Program.Run

/-!
# What a program ensures

A setting says which calls a program may make of a state, and how they may be answered.
Calls may be answered in several ways, so that a setting speaks for handlers that fail or
that others share.  A program ensures something if it makes only calls that it may make, and
ends as it should whatever it is answered.
-/

namespace FieldSurvey

/-- Which calls may be made of a state, and which replies and states they may lead to. -/
structure Setting (S : Signature) (σ : Type) where
  permits : σ → S.Call → Prop
  answers : σ → (request : S.Call) → S.Reply request → σ → Prop

namespace Setting

variable {S T : Signature} {σ : Type}

/-- The setting of those who share a state with others.  Before each of their calls the
others may have changed the state. -/
def among (rely : σ → σ → Prop) (setting : Setting S σ) : Setting S σ where
  permits state request := ∀ later, rely state later → setting.permits later request
  answers state request reply after :=
    ∃ later, rely state later ∧ setting.answers later request reply after

end Setting

namespace Program

variable {S T : Signature} {σ β γ : Type}

/-- Whether a program makes only calls that its setting permits, and ends with a value and
in a state that suit. -/
def Ensures (setting : Setting S σ) (suits : β → σ → Prop) : Program S β → σ → Prop
  | .done value, state => suits value state
  | .call request next, state =>
    setting.permits state request ∧
      ∀ reply after, setting.answers state request reply after →
        (next reply).Ensures setting suits after

variable {setting : Setting S σ} {state : σ} {program : Program S β}

theorem Ensures.imp {between suits : β → σ → Prop} (ensures : program.Ensures setting between state)
    (weaker : ∀ value reached, between value reached → suits value reached) :
    program.Ensures setting suits state := by
  induction program generalizing state with
  | done value => exact weaker value state ensures
  | call request next ih =>
      exact ⟨ensures.1, fun reply after answered => ih reply (ensures.2 reply after answered)⟩

/-- Of a sequence of two programs the second one starts where the first one may end. -/
theorem Ensures.bind {between : β → σ → Prop} {suits : γ → σ → Prop} {next : β → Program S γ}
    (first : program.Ensures setting between state)
    (second : ∀ value reached, between value reached →
      (next value).Ensures setting suits reached) :
    (program.bind next).Ensures setting suits state := by
  induction program generalizing state with
  | done value => exact second value state first
  | call request rest ih =>
      exact ⟨first.1, fun reply after answered => ih reply (first.2 reply after answered)⟩

/-- Those who share a state with others can go on from wherever these have left it. -/
theorem Ensures.later {rely : σ → σ → Prop} {suits : β → σ → Prop}
    (ensures : program.Ensures (setting.among rely) suits state)
    (transitive : ∀ {first second third}, rely first second → rely second third →
      rely first third)
    (stable : ∀ {value state later}, suits value state → rely state later → suits value later)
    {after : σ} (changed : rely state after) :
    program.Ensures (setting.among rely) suits after := by
  cases program with
  | done value => exact stable ensures changed
  | call request next =>
      constructor
      · intro later more
        exact ensures.1 later (transitive changed more)
      · rintro reply reached ⟨later, more, answered⟩
        exact ensures.2 reply reached ⟨later, transitive changed more, answered⟩

/-- A program ensures what it did before its calls were replaced by programs, if each of
these makes the calls that the one it stands for may make, and ends as that is answered. -/
theorem Ensures.translate {inner : Setting T σ} {suits : β → σ → Prop} {program : Program T β}
    {image : (request : T.Call) → Program S (T.Reply request)}
    (ensures : program.Ensures inner suits state)
    (images : ∀ request state, inner.permits state request →
      (image request).Ensures setting (inner.answers state request) state) :
    (program.translate image).Ensures setting suits state := by
  induction program generalizing state with
  | done value => exact ensures
  | call request next ih =>
      apply (images request state ensures.1).bind
      intro reply after answered
      exact ih reply (ensures.2 reply after answered)

/-- A program that calls one part of a larger state ensures of that part what it does alone, and
leaves the rest as it is. -/
theorem Ensures.translate_part {τ ρ : Type} {inner : Setting T τ} {suits : β → τ → Prop}
    {program : Program T β} (part : σ → τ) (rest : σ → ρ)
    {image : (request : T.Call) → Program S (T.Reply request)}
    (ensures : program.Ensures inner suits (part state))
    (images : ∀ request state, inner.permits (part state) request →
      (image request).Ensures setting (fun reply after =>
        inner.answers (part state) request reply (part after) ∧ rest after = rest state) state) :
    (program.translate image).Ensures setting
      (fun value reached => suits value (part reached) ∧ rest reached = rest state) state := by
  induction program generalizing state with
  | done value => exact ⟨ensures, rfl⟩
  | call request next ih =>
      apply (images request state ensures.1).bind
      rintro reply after ⟨answered, same⟩
      refine (ih reply (ensures.2 reply (part after) answered)).imp ?_
      rintro value reached ⟨suitable, still⟩
      exact ⟨suitable, still.trans same⟩

/-- Whoever answers the calls of a program as its setting has it sees what the program
ensures. -/
theorem Ensures.run {suits : β → σ → Prop} {handler : Handler S σ}
    (ensures : program.Ensures setting suits state)
    (answers : ∀ state request, setting.answers state request (handler request state).1
      (handler request state).2) :
    suits (program.run handler state).1 (program.run handler state).2 := by
  induction program generalizing state with
  | done value => exact ensures
  | call request next ih => exact ih _ (ensures.2 _ _ (answers state request))

/-! ## Executions -/

/-- Calls that a program makes one after the other, answered as they may be.  They take it and a
state to what is left of it and to the state in which it goes on. -/
inductive Leads (answers : σ → (request : S.Call) → S.Reply request → σ → Prop) :
    Program S β → σ → Program S β → σ → Prop
  | here (program : Program S β) (state : σ) : Leads answers program state program state
  | call {state after reached : σ} {request : S.Call} {next : S.Reply request → Program S β}
    {rest : Program S β} (reply : S.Reply request) (answered : answers state request reply after)
    (leads : Leads answers (next reply) after rest reached) :
    Leads answers (.call request next) state rest reached

/-- What is left of a program ensures what the program does. -/
theorem Ensures.of_leads {suits : β → σ → Prop} {rest : Program S β} {reached : σ}
    (ensures : program.Ensures setting suits state)
    (leads : program.Leads setting.answers state rest reached) :
    rest.Ensures setting suits reached := by
  induction leads with
  | here program state => exact ensures
  | call reply answered leads ih => exact ih (ensures.2 reply _ answered)

theorem Leads.trans {answers : σ → (request : S.Call) → S.Reply request → σ → Prop}
    {middle rest : Program S β} {between reached : σ}
    (first : program.Leads answers state middle between)
    (second : middle.Leads answers between rest reached) :
    program.Leads answers state rest reached := by
  induction first with
  | here program state => exact second
  | call reply answered leads ih => exact .call reply answered (ih second)

/-- One more call is answered. -/
theorem Leads.answered {answers : σ → (request : S.Call) → S.Reply request → σ → Prop}
    {request : S.Call} {next : S.Reply request → Program S β} {before after : σ}
    (leads : program.Leads answers state (.call request next) before)
    {reply : S.Reply request} (answered : answers before request reply after) :
    program.Leads answers state (next reply) after :=
  leads.trans (.call reply answered (.here _ _))

theorem Leads.mono {answers wider : σ → (request : S.Call) → S.Reply request → σ → Prop}
    {rest : Program S β} {reached : σ} (leads : program.Leads answers state rest reached)
    (implies : ∀ state request reply after, answers state request reply after →
      wider state request reply after) :
    program.Leads wider state rest reached := by
  induction leads with
  | here program state => exact .here program state
  | call reply answered leads ih => exact .call reply (implies _ _ _ _ answered) ih

end Program

end FieldSurvey
