import FieldSurvey.Model.Application
import FieldSurvey.Model.Endpoint

/-!
# Registrations

A registration is an application with its endpoints.  Two registrations of one
application merge into one: what the application says about itself is joined,
and of two endpoints with one id the later one counts.
-/

namespace FieldSurvey.Model

open Document

/-- An application with its endpoints. -/
structure Registration where
  application : Application
  endpoints : List Endpoint := []
  deriving DecidableEq

namespace Registration

instance : Codec Registration where
  read := RecordReader.run do
    let application ← .required "application"
    let endpoints ← .withDefault "endpoints" []
    return { application, endpoints }
  write registration := .record (
    field "application" registration.application ++
    field "endpoints" registration.endpoints)

/-- Replaces the first endpoint of the same id, or adds the endpoint at the
end. -/
def putEndpoint (endpoint : Endpoint) : List Endpoint → List Endpoint
  | [] => [endpoint]
  | first :: rest =>
    if first.id = endpoint.id then endpoint :: rest else first :: putEndpoint endpoint rest

/-- Merges another registration of the same application into this one. -/
def merge (registration other : Registration) : Registration where
  application := registration.application.joined other.application
  endpoints := other.endpoints.foldl (fun endpoints endpoint => putEndpoint endpoint endpoints)
    registration.endpoints

/-- Merges a registration into the first one of the same application, or adds it
at the end. -/
def mergeInto (registration : Registration) : List Registration → List Registration
  | [] => [registration]
  | first :: rest =>
    if first.application.applicationId = registration.application.applicationId then
      first.merge registration :: rest
    else first :: mergeInto registration rest

end Registration

end FieldSurvey.Model
