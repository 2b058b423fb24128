import FieldSurvey.Program

/-!
# Undisturbed runs

A program that runs undisturbed threads the state of its handler through its
calls.  The laws below take a run apart along the structure of the program, so
that a longer program is run by running its pieces.
-/

namespace FieldSurvey.Program

variable {S T : Signature} {β γ : Type} {σ τ : Type}

@[simp]
theorem bind_eq (program : Program S β) (next : β → Program S γ) :
    program >>= next = program.bind next :=
  rfl

@[simp]
theorem pure_eq (value : β) : (pure value : Program S β) = .done value :=
  rfl

@[simp]
theorem done_bind (value : β) (next : β → Program S γ) :
    (done value : Program S β).bind next = next value :=
  rfl

@[simp]
theorem call_bind (request : S.Call) (rest : S.Reply request → Program S β)
    (next : β → Program S γ) :
    (call request rest).bind next = .call request fun reply => (rest reply).bind next :=
  rfl

@[simp]
theorem ask_bind (request : S.Call) (next : S.Reply request → Program S γ) :
    (ask request).bind next = .call request next :=
  rfl

@[simp]
theorem run_done (handler : Handler S σ) (value : β) (state : σ) :
    (done value : Program S β).run handler state = (value, state) :=
  rfl

@[simp]
theorem run_call (handler : Handler S σ) (request : S.Call)
    (next : S.Reply request → Program S β) (state : σ) :
    (call request next).run handler state =
      (next (handler request state).1).run handler (handler request state).2 :=
  rfl

/-- A sequence of two programs runs the second one from where the first one has
left the state. -/
@[simp]
theorem run_bind (handler : Handler S σ) (program : Program S β) (next : β → Program S γ)
    (state : σ) :
    (program.bind next).run handler state =
      (next (program.run handler state).1).run handler (program.run handler state).2 := by
  induction program generalizing state with
  | done value => rfl
  | call request rest ih => exact ih _ _

/-- A program whose calls are answered by a part of a larger state changes that
part as it would alone, and leaves the others as they are. -/
theorem run_translate (part : τ → σ) (replace : σ → τ → τ) {handler : Handler S σ}
    {wide : Handler T τ} {image : (request : S.Call) → Program T (S.Reply request)}
    (part_replace : ∀ inner outer, part (replace inner outer) = inner)
    (replace_part : ∀ outer, replace (part outer) outer = outer)
    (replace_replace : ∀ inner later outer,
      replace later (replace inner outer) = replace later outer)
    (run_image : ∀ request outer, (image request).run wide outer =
      ((handler request (part outer)).1, replace (handler request (part outer)).2 outer))
    (program : Program S β) (outer : τ) :
    (program.translate image).run wide outer =
      ((program.run handler (part outer)).1,
        replace (program.run handler (part outer)).2 outer) := by
  induction program generalizing outer with
  | done value => simp [translate, replace_part]
  | call request next ih =>
      simp only [translate, run_bind, run_image, run_call]
      rw [ih, part_replace, replace_replace]

/-- A program that is answered by a part of a larger state runs as it would by that part alone. -/
theorem run_part (handler : Handler S σ) (wide : Handler S τ) (part : τ → σ)
    (reply : ∀ request outer, (wide request outer).1 = (handler request (part outer)).1)
    (next : ∀ request outer, part (wide request outer).2 = (handler request (part outer)).2)
    (program : Program S β) (outer : τ) :
    program.run handler (part outer) =
      ((program.run wide outer).1, part (program.run wide outer).2) := by
  induction program generalizing outer with
  | done value => rfl
  | call request rest ih =>
      rw [run_call, run_call, ← reply, ← next]
      exact ih _ _

end FieldSurvey.Program
