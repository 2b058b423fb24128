/-!
# Programs over a signature

A signature is a set of calls, each with a type of replies.  A program over it
is a tree: it ends with a value, or it makes one call and goes on in a way that
depends on the reply.  Who answers the calls, and what happens between two of
them, is left open; running a program against one handler, replacing every call
by a program over another signature, and taking a single step are three ways to
give it meaning.
-/

namespace FieldSurvey

/-- Calls and the types of their replies. -/
structure Signature where
  Call : Type
  Reply : Call → Type

/-- A program that ends with a value of type `β`. -/
inductive Program (S : Signature) (β : Type) where
  | done (value : β)
  | call (request : S.Call) (next : S.Reply request → Program S β)

namespace Program

variable {S T : Signature} {β γ : Type}

/-- Goes on with the value of a program. -/
def bind (program : Program S β) (next : β → Program S γ) : Program S γ :=
  match program with
  | .done value => next value
  | .call request rest => .call request fun reply => (rest reply).bind next

instance : Monad (Program S) where
  pure := .done
  bind := bind

/-- Makes one call and ends with its reply. -/
def ask (request : S.Call) : Program S (S.Reply request) :=
  .call request .done

/-- Replaces every call by a program over another signature. -/
def translate (image : (request : S.Call) → Program T (S.Reply request)) :
    Program S β → Program T β
  | .done value => .done value
  | .call request next => (image request).bind fun reply => (next reply).translate image

/-- A state that answers calls. -/
abbrev Handler (S : Signature) (σ : Type) :=
  (request : S.Call) → σ → S.Reply request × σ

/-- Runs a program against a handler, undisturbed. -/
def run {σ : Type} (handler : Handler S σ) : Program S β → σ → β × σ
  | .done value, state => (value, state)
  | .call request next, state =>
    let (reply, state) := handler request state
    (next reply).run handler state

/-- Answers the next call of a program, if there is one. -/
def step {σ : Type} (handler : Handler S σ) : Program S β → σ → Program S β × σ
  | .done value, state => (.done value, state)
  | .call request next, state =>
    let (reply, state) := handler request state
    (next reply, state)

/-- The value of a program that has ended. -/
def value? : Program S β → Option β
  | .done value => some value
  | .call _ _ => none

end Program

end FieldSurvey
