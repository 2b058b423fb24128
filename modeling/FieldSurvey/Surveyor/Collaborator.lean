/-!
# Collaborators

A surveyor cannot start without somebody to ask servers for their endpoints and
somebody to receive the results.
-/

namespace FieldSurvey.Surveyor

/-- A party that a surveyor needs. -/
inductive Collaborator where
  | endpointDiscovery
  | resultHandler
  deriving DecidableEq, Repr

namespace Collaborator

/-- All of them, in the order in which they are asked for. -/
def all : List Collaborator :=
  [endpointDiscovery, resultHandler]

/-- The name of a collaborator. -/
def name : Collaborator → String
  | endpointDiscovery => "endpoint discovery"
  | resultHandler => "result handler"

/-- The first collaborator that is not there. -/
def missing? (isPresent : Collaborator → Bool) : Option Collaborator :=
  all.find? fun collaborator => !isPresent collaborator

/-- The wording of the lack of a collaborator. -/
def lack (collaborator : Collaborator) : String :=
  s!"Missing discovery collaborator: {collaborator.name}"

end Collaborator

end FieldSurvey.Surveyor
