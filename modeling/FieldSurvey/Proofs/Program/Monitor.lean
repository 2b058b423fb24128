import FieldSurvey.Program

/-!
# Monitored programs

A monitor follows a program from call to call.  It says in which position which call
may be made, and where a reply leads.  A program that follows a monitor keeps to it
whatever it is answered.
-/

namespace FieldSurvey

/-- The calls that may be made in a position, and the position after a reply. -/
structure Monitor (S : Signature) (π : Type) where
  allows : π → S.Call → Prop
  next : π → (request : S.Call) → S.Reply request → π

namespace Program

variable {S : Signature} {π β γ : Type}

/-- Whether a program makes only calls that its monitor allows, and ends with a value
that suits the position that it has come to. -/
def Follows (monitor : Monitor S π) (suits : β → π → Prop) : Program S β → π → Prop
  | .done value, position => suits value position
  | .call request next, position =>
    monitor.allows position request ∧
      ∀ reply, (next reply).Follows monitor suits (monitor.next position request reply)

variable {monitor : Monitor S π} {position : π}

theorem follows_done {suits : β → π → Prop} {value : β} (suitable : suits value position) :
    (done value : Program S β).Follows monitor suits position :=
  suitable

theorem follows_call {suits : β → π → Prop} {request : S.Call}
    {next : S.Reply request → Program S β} (allowed : monitor.allows position request)
    (rest : ∀ reply, (next reply).Follows monitor suits (monitor.next position request reply)) :
    (call request next).Follows monitor suits position :=
  ⟨allowed, rest⟩

/-- A sequence of two programs follows a monitor if the second one follows it from
wherever the first one leads. -/
theorem Follows.bind {between : β → π → Prop} {suits : γ → π → Prop} {program : Program S β}
    {next : β → Program S γ} (first : program.Follows monitor between position)
    (second : ∀ value reached, between value reached →
      (next value).Follows monitor suits reached) :
    (program.bind next).Follows monitor suits position := by
  induction program generalizing position with
  | done value => exact second value position first
  | call request rest ih => exact ⟨first.1, fun reply => ih reply (first.2 reply)⟩

/-! ## Programs that keep to some calls -/

variable {T : Signature} {allowed : S.Call → Prop}

/-- Whether a program makes only calls that are allowed, whatever it is answered. -/
def Only (allowed : S.Call → Prop) (program : Program S β) : Prop :=
  program.Follows ⟨fun _ => allowed, fun _ _ _ => ()⟩ (fun _ _ => True) ()

theorem only_done (value : β) : (done value : Program S β).Only allowed :=
  trivial

theorem only_call {request : S.Call} {next : S.Reply request → Program S β}
    (isAllowed : allowed request) (rest : ∀ reply, (next reply).Only allowed) :
    (call request next).Only allowed :=
  ⟨isAllowed, rest⟩

theorem only_ask {request : S.Call} (isAllowed : allowed request) :
    (ask request).Only allowed :=
  ⟨isAllowed, fun _ => trivial⟩

theorem Only.bind {program : Program S β} {next : β → Program S γ} (first : program.Only allowed)
    (second : ∀ value, (next value).Only allowed) : (program.bind next).Only allowed :=
  Follows.bind first fun value _ _ => second value

/-- A program follows every monitor that lets its calls be made wherever they keep to. -/
theorem Only.follows {monitor : Monitor S π} {position : π} {program : Program S β}
    (only : program.Only allowed) (keeps : π → Prop) (kept : keeps position)
    (step : ∀ position request, keeps position → allowed request →
      monitor.allows position request ∧ ∀ reply, keeps (monitor.next position request reply)) :
    program.Follows monitor (fun _ reached => keeps reached) position := by
  induction program generalizing position with
  | done value => exact kept
  | call request next ih =>
      obtain ⟨allows, leads⟩ := step position request kept only.1
      exact ⟨allows, fun reply => ih reply (only.2 reply) (leads reply)⟩

theorem Only.imp {other : S.Call → Prop} {program : Program S β} (only : program.Only allowed)
    (weaker : ∀ request, allowed request → other request) : program.Only other :=
  only.follows (fun _ => True) trivial fun _ request _ isAllowed =>
    ⟨weaker request isAllowed, fun _ => trivial⟩

/-- Calls may be replaced by programs that keep to the calls that are allowed. -/
theorem Only.translate {inner : T.Call → Prop} {program : Program T β}
    {image : (request : T.Call) → Program S (T.Reply request)} (only : program.Only inner)
    (images : ∀ request, inner request → (image request).Only allowed) :
    (program.translate image).Only allowed := by
  induction program with
  | done value => exact only_done value
  | call request next ih => exact (images request only.1).bind fun reply => ih reply (only.2 reply)

end Program

end FieldSurvey
