import FieldSurvey.Registry.Store

/-!
# The registry's two stores

The registry keeps applications and endpoints in a store each.  A call of the
registry is a call of one of them.
-/

namespace FieldSurvey.Registry

open Model (Application Endpoint)

/-- A call of one of the stores. -/
inductive Call where
  | application (request : StoreCall Application)
  | endpoint (request : StoreCall Endpoint)

/-- What a call is answered with. -/
abbrev Call.Reply : Call → Type
  | application request => request.Reply
  | endpoint request => request.Reply

/-- The calls of the registry. -/
abbrev Calls : Signature where
  Call := Call
  Reply := Call.Reply

/-- A program over the application store, as one over the registry. -/
def onApplications {β : Type} (program : Program (StoreSignature Application) β) :
    Program Calls β :=
  program.translate fun request => Program.ask (S := Calls) (Call.application request)

/-- A program over the endpoint store, as one over the registry. -/
def onEndpoints {β : Type} (program : Program (StoreSignature Endpoint) β) :
    Program Calls β :=
  program.translate fun request => Program.ask (S := Calls) (Call.endpoint request)

/-- The contents of the registry. -/
structure Contents where
  applications : Store Application := {}
  endpoints : Store Endpoint := {}

/-- Two stores answer every call by themselves. -/
def Contents.handler (supply : Nat → String) : Program.Handler Calls Contents :=
  fun request contents =>
    match request with
    | .application request =>
      let (reply, applications) := Store.handler supply request contents.applications
      (reply, { contents with applications })
    | .endpoint request =>
      let (reply, endpoints) := Store.handler supply request contents.endpoints
      (reply, { contents with endpoints })

section

variable (supply : Nat → String) (contents : Contents)

@[simp]
theorem Contents.handler_application (request : StoreCall Application) :
    Contents.handler supply (.application request) contents =
      ((Store.handler supply request contents.applications).1,
        { contents with
          applications := (Store.handler supply request contents.applications).2 }) :=
  rfl

@[simp]
theorem Contents.handler_endpoint (request : StoreCall Endpoint) :
    Contents.handler supply (.endpoint request) contents =
      ((Store.handler supply request contents.endpoints).1,
        { contents with
          endpoints := (Store.handler supply request contents.endpoints).2 }) :=
  rfl

end

end FieldSurvey.Registry
