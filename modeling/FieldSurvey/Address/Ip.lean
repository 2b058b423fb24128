import FieldSurvey.Address.V6

/-!
# Addresses and sockets

An address of either family, and an address together with a TCP port.
-/

namespace FieldSurvey.Address

/-- An IPv4 or IPv6 address. -/
inductive Ip where
  | v4 (address : V4)
  | v6 (address : V6)
  deriving DecidableEq

namespace Ip

/-- The written form, as characters. -/
def toChars : Ip → List Char
  | v4 address => address.toChars
  | v6 address => address.toChars

/-- The written form. -/
def toText (ip : Ip) : String :=
  String.ofList ip.toChars

/-- Reads an address literal of either family. -/
def ofText? (text : String) : Option Ip :=
  match V4.ofText? text with
  | some address => some (v4 address)
  | none => (V6.ofChars? text.toList).map v6

/-- Whether the address is an IPv4 address. -/
def isV4 : Ip → Bool
  | v4 _ => true
  | v6 _ => false

/-- The IPv4 address, if it is one. -/
def v4? : Ip → Option V4
  | v4 address => some address
  | v6 _ => none

/-- The address as the host part of a url: IPv6 addresses stand in brackets. -/
def hostText : Ip → String
  | v4 address => address.toText
  | v6 address => "[" ++ String.ofList address.toChars ++ "]"

end Ip

/-- An address and a TCP port. -/
structure Socket where
  ip : Ip
  port : Nat
  deriving DecidableEq

/-- The written form, as `address:port`. -/
def Socket.toText (socket : Socket) : String :=
  socket.ip.hostText ++ ":" ++ toString socket.port

/-- Reads an address and a port, of which an IPv6 address stands in brackets. -/
def Socket.ofText? (text : String) : Option Socket := do
  let (host, digits) ← Text.splitLast ':' text.toList
  let port ← (Number.read Number.maxShort digits).toOption
  let ip ← match host, host.getLast? with
    | '[' :: inner, some ']' => (V6.ofChars? inner.dropLast).map Ip.v6
    | host, _ => (V4.ofChars? host).map Ip.v4
  some { ip, port }

end FieldSurvey.Address
