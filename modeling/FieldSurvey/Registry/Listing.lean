import FieldSurvey.Model.Registration
import FieldSurvey.Registry.Calls

/-!
# Listings

A listing shows the registry as registrations: applications by uri, each with
its endpoints by url, and by id where these are equal.
-/

namespace FieldSurvey.Registry

open Model (Application Endpoint Registration)

/-- Order by a text, then by an id. -/
def leByText {α : Type} (text id : α → String) (a b : α) : Bool :=
  text a < text b || (text a == text b && id a ≤ id b)

/-- Gives every application its endpoints, in order.  They are taken away as they are given, so
that no endpoint is given twice. -/
def house : List Application → List Endpoint → List Registration
  | [], _ => []
  | application :: others, endpoints =>
    let (own, rest) := endpoints.partition fun endpoint =>
      endpoint.applicationId == application.applicationId
    { application, endpoints := own.mergeSort (leByText Endpoint.endpointUrl Endpoint.id) } ::
      house others rest

/-- The registrations of given applications and endpoints, in order. -/
def arrange (applications : List Application) (endpoints : List Endpoint) :
    List Registration :=
  (house applications endpoints).mergeSort
    (leByText (fun registration => registration.application.applicationUri)
      (fun registration => registration.application.applicationId))

/-- The registrations of one discoverer, or of all. -/
def registrations (discovererId : Option String) :
    Program Calls (Except Fault (List Registration)) := do
  let applications ← match discovererId with
    | some id => Program.ask (S := Calls) (Call.application (.listBy id))
    | none => Program.ask (S := Calls) (Call.application .list)
  match applications with
  | .error fault => return .error fault
  | .ok applications =>
    let endpoints ← match discovererId with
      | some id => Program.ask (S := Calls) (Call.endpoint (.listBy id))
      | none => Program.ask (S := Calls) (Call.endpoint .list)
    match endpoints with
    | .error fault => return .error fault
    | .ok endpoints => return .ok (arrange applications endpoints)

end FieldSurvey.Registry
