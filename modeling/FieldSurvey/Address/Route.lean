import FieldSurvey.Address.V4
import FieldSurvey.Text.Basic

/-!
# Routing tables

A routing table is a header line followed by one line per route: interface,
destination and gateway, the latter two in hexadecimal with the last octet
first.  The default gateway of an interface is that of its first route to
`00000000` whose gateway is a number other than zero.
-/

namespace FieldSurvey.Address.Route

/-- A word with the order of its octets reversed. -/
def swapOctets (word : Nat) : Nat :=
  V4.ofOctets (word % 0x100) (word / 0x100 % 0x100) (word / 0x10000 % 0x100) (word / 0x1000000)
    |>.value

/-- The interface and gateway of a line that holds a default route. -/
def defaultRoute? (line : List Char) : Option (String × V4) :=
  match Text.words line with
  | interface :: destination :: gateway :: _ =>
    if destination = "00000000".toList then
      match Number.readIn 16 Number.maxWord gateway with
      | .ok word =>
        if word = 0 then none
        else some (String.ofList interface, V4.ofNat (swapOctets word))
      | .error _ => none
    else none
  | _ => none

/-- Keeps the first entry of every name. -/
def firstPerName : List (String × V4) → List (String × V4)
  | [] => []
  | (name, gateway) :: rest =>
    (name, gateway) :: (firstPerName rest).filter fun entry => entry.1 ≠ name

/-- The default gateway of every interface that has one. -/
def gateways (table : String) : List (String × V4) :=
  firstPerName (((Text.lines table.toList).drop 1).filterMap defaultRoute?)

end FieldSurvey.Address.Route
