import FieldSurvey.Survey.Calls
import FieldSurvey.Url.Reader

/-!
# Targets of a run

A run looks at the servers of the declared urls, and, if it scans, at every
socket that a scan of ports finds open.  A url that cannot be read, or whose host
has no address, is left out, and no url is listed twice.
-/

namespace FieldSurvey.Survey

open Address (Ip Socket)
open Probe (Outcome)

/-- The name under which a container knows its host. -/
def containerHostName : String :=
  "host.docker.internal"

/-- The name of a host as it is looked up. -/
def lookupName : Url.Host → String
  | .v6 address => String.ofList address.toHexChars
  | host => host.toText

/-- The names under which a host is looked up, one after the other.  In a
container, localhost means the host of the container first. -/
def lookupNames (isContainer : Bool) (name : String) : List String :=
  if isContainer && Text.sameIgnoringAsciiCase name "localhost" then [containerHostName, name]
  else [name]

/-- The address to use of those that a name has: an IPv4 address if there is
one. -/
def preferred? (addresses : List Ip) : Option Ip :=
  (addresses.find? Ip.isV4).or addresses.head?

/-- The address of the first name that has one. -/
def firstAddress : List String → Program RunCalls (Option Ip)
  | [] => return none
  | name :: rest => do
    match ((← ask (.resolve name)).bind preferred?) with
    | some ip => return some ip
    | none => firstAddress rest

/-- Adds a target unless its url is listed already. -/
def addTarget (target : Target) (targets : List Target) : List Target :=
  if targets.any fun listed => listed.url == target.url then targets else targets ++ [target]

/-- The url of a declared text and its host, if the text can be read. -/
def declaredUrl? (text : String) : Option (Url × Url.Host) := do
  let url ← Url.ofText? (Text.trimmed text)
  let host ← url.authority.bind Url.Authority.host
  some (url, host)

/-- Adds the targets of declared urls. -/
def addDeclared (isContainer : Bool) :
    List String → List Target → Program RunCalls (List Target)
  | [], targets => return targets
  | text :: rest, targets =>
    match declaredUrl? text with
    | none => addDeclared isContainer rest targets
    | some (url, host) => do
      match ← firstAddress (lookupNames isContainer (lookupName host)) with
      | none => addDeclared isContainer rest targets
      | some ip =>
        addDeclared isContainer rest
          (addTarget { url, address := { ip, port := portOf url } } targets)

/-- The text of the url of an open socket, which names the host if its address
has a name. -/
def socketUrlText (socket : Socket) (name : Option String) : String :=
  s!"opc.tcp://{name.getD socket.ip.hostText}:{socket.port}"

/-- Adds the target of an open socket, if its url can be read. -/
def addSocket (socket : Socket) (name : Option String) (targets : List Target) : List Target :=
  match Url.ofText? (socketUrlText socket name) with
  | some url => addTarget { url, address := socket } targets
  | none => targets

/-- Adds the targets of open sockets. -/
def addOpen : List Socket → List Target → Program RunCalls (Outcome (List Target))
  | [], targets => return .completed targets
  | socket :: rest, targets => do
    match ← askUnlessCancelled (.reverse socket.ip) with
    | .cancelled => return .cancelled
    | .completed name => addOpen rest (addSocket socket name targets)

end FieldSurvey.Survey
