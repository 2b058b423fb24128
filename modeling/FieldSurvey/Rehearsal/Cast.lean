import FieldSurvey.Address.Interface
import FieldSurvey.Rehearsal.Probing
import FieldSurvey.Survey.Catalog
import FieldSurvey.Survey.Targets

/-!
# Scripted parties

A rehearsal has a cast that plays everyone around the surveyor: the network and
its names, the hosts and ports that are probed, the servers, and the receiver of
the results.  Each of them answers by a script, and after the time that its
script says.
-/

namespace FieldSurvey.Rehearsal

open Address (Ip Socket)
open Model (DiscoveredEndpoint)
open Survey (Phase Target Wait)

/-- The network around this machine. -/
structure NetworkScript where
  interfaces : List Address.Interface := []
  isContainer : Bool := false
  /-- the addresses of names -/
  hosts : List (String × List Ip) := []
  /-- the names of addresses -/
  names : List (Ip × String) := []
  /-- milliseconds that it takes to look up the name of an address -/
  reverseDelay : Nat := 0

namespace NetworkScript

/-- The addresses of a name.  An address literal is its own address. -/
def resolve (network : NetworkScript) (name : String) : Option (List Ip) :=
  match Ip.ofText? name with
  | some ip => some [ip]
  | none => network.hosts.lookup name

/-- The address of the host, if this machine is a container. -/
def containerHost (network : NetworkScript) : Option Address.V4 :=
  if network.isContainer then
    (network.resolve Survey.containerHostName).bind fun addresses => addresses.findSome? Ip.v4?
  else none

end NetworkScript

/-- How a server answers, and after how many milliseconds. -/
structure ServerScript where
  delay : Nat
  answer : Except String (List DiscoveredEndpoint)

/-- A server that fails. -/
def ServerScript.failing (delay : Nat) (reason : String) : ServerScript where
  delay := delay
  answer := .error s!"endpoint discovery: {reason}"

/-- The servers. -/
inductive Servers where
  /-- servers by the written form of their url -/
  | scripted (table : List (String × ServerScript))
  | catalog (servers : List Settings.CatalogServer)

/-- How the server of a target answers. -/
def Servers.script (servers : Servers) (target : Target) : ServerScript :=
  match servers with
  | .scripted table =>
    (table.lookup target.url.toText).getD
      { delay := 0, answer := .error s!"no server at {target.url.toText}" }
  | .catalog servers =>
    { delay := 0
      answer := (Survey.findInCatalog servers target false).mapError Survey.CatalogFault.message }

/-- How the receiver of the results behaves. -/
structure ReceiverScript where
  /-- milliseconds that it takes to receive a batch -/
  delay : Nat := 0
  failure : Option String := none
  /-- whether batches are delivered to the registry -/
  delivers : Bool := false

/-- All scripted parties. -/
structure Cast where
  network : NetworkScript := {}
  servers : Servers := .scripted []
  receiver : ReceiverScript := {}
  host : Ip → ProbeScript := fun _ => {}
  port : Socket → ProbeScript := fun _ => {}

namespace Cast

/-- How what is probed in a phase answers. -/
def probed (cast : Cast) : (phase : Phase) → phase.Item → ProbeScript
  | .hosts => cast.host
  | .ports => cast.port

/-- How long a wait takes. -/
def delay (cast : Cast) : Wait → Nat
  | .resolve _ => 0
  | .reverse _ => cast.network.reverseDelay
  | .find target _ => (cast.servers.script target).delay
  | .publish _ => cast.receiver.delay

/-- The answer that ends a wait; `receipt` is the one of the receiver of the
results. -/
def answer (cast : Cast) (receipt : Except String Unit) : (wait : Wait) → wait.Answer
  | .resolve name => cast.network.resolve name
  | .reverse ip => cast.network.names.lookup ip
  | .find target _ => (cast.servers.script target).answer
  | .publish _ => receipt

end Cast

end FieldSurvey.Rehearsal
