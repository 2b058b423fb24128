import FieldSurvey.Identity
import FieldSurvey.Model.Record

/-!
# Candidates

The records of a batch, grouped by application.  Ids are derived anew on behalf
of the discoverer.  The first record of an application supplies it, and of
several records of one endpoint the last one counts.
-/

namespace FieldSurvey.Registry

open Model (Application Endpoint Registration ResultRecord)

/-- The application of a record as the discoverer owns it. -/
def ownedApplication (discovererId applicationId : String) (application : Application) :
    Application :=
  { application with
    applicationId := applicationId
    discovererId := some discovererId
    visibility := .found
    notSeenSince := none }

/-- The endpoint of a record as the discoverer owns it. -/
def ownedEndpoint (discovererId applicationId : String) (application : Application)
    (endpoint : Endpoint) : Endpoint :=
  { endpoint with
    id := Identity.endpointId endpoint.endpointUrl applicationId endpoint.securityMode
      endpoint.securityPolicy
    applicationId := applicationId
    discovererId := some discovererId
    siteId := application.siteId }

/-- The id of the application of a record, unless its uri is blank. -/
def derivedId? (discovererId : String) (application : Application) : Option String :=
  Identity.applicationId?
    (some (Identity.siteOrGatewayId application.siteId discovererId))
    application.applicationUri application.applicationType

/-- Adds an endpoint to the candidate of its application, which is opened if
there is none. -/
def placeEndpoint (application : Application) (endpoint : Endpoint) :
    List Registration → List Registration
  | [] => [{ application, endpoints := [endpoint] }]
  | first :: rest =>
    if first.application.applicationId = application.applicationId then
      { first with endpoints := Registration.putEndpoint endpoint first.endpoints } :: rest
    else first :: placeEndpoint application endpoint rest

/-- Candidates and the number of records that were passed over because their
application has no uri. -/
structure Candidates where
  registrations : List Registration := []
  skipped : Nat := 0

/-- Takes one record in.  Records without application or endpoint say nothing
about the registry. -/
def Candidates.place (discovererId : String) (candidates : Candidates) (result : ResultRecord) :
    Candidates :=
  match result.application, result.endpoint with
  | some application, some endpoint =>
    match derivedId? discovererId application with
    | none => { candidates with skipped := candidates.skipped + 1 }
    | some applicationId =>
      { candidates with
        registrations := placeEndpoint (ownedApplication discovererId applicationId application)
          (ownedEndpoint discovererId applicationId application endpoint)
          candidates.registrations }
  | _, _ => candidates

/-- The candidates of a batch. -/
def Candidates.ofBatch (discovererId : String) (results : List ResultRecord) : Candidates :=
  results.foldl (Candidates.place discovererId) {}

end FieldSurvey.Registry
