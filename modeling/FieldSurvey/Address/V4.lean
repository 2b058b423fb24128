import FieldSurvey.Number.Literal
import FieldSurvey.Text.Basic

/-!
# IPv4 addresses

An IPv4 address is a word of 32 bits.  It is written as four decimal octets
with points between them; an octet has no zeros in front.
-/

namespace FieldSurvey.Address

/-- A 32 bit address. -/
structure V4 where
  value : Nat
  value_lt : value < 0x100000000
  deriving DecidableEq

namespace V4

instance : Inhabited V4 := ⟨⟨0, by decide⟩⟩

/-- The lowest 32 bits of a number as an address. -/
def ofNat (n : Nat) : V4 :=
  ⟨n % 0x100000000, Nat.mod_lt _ (by decide)⟩

/-- The address of four octets, first octet first. -/
def ofOctets (a b c d : Nat) : V4 :=
  ofNat (((a * 0x100 + b) * 0x100 + c) * 0x100 + d)

/-- The octets of an address, first octet first. -/
def octets (address : V4) : List Nat :=
  [address.value / 0x1000000, address.value / 0x10000 % 0x100, address.value / 0x100 % 0x100,
    address.value % 0x100]

/-- 127.0.0.1. -/
def loopback : V4 :=
  ofOctets 127 0 0 1

/-- The written form, as characters. -/
def toChars (address : V4) : List Char :=
  ['.'].intercalate (address.octets.map Number.digits)

/-- The written form. -/
def toText (address : V4) : String :=
  String.ofList address.toChars

/-- Reads one octet: up to three digits, no zero in front of another digit,
and at most 255. -/
def octet? (cs : List Char) : Option Nat :=
  match cs with
  | [] => none
  | '0' :: _ :: _ => none
  | '+' :: _ => none
  | _ => (Number.read Number.maxByte cs).toOption

/-- Reads an address that makes up the whole text. -/
def ofChars? (cs : List Char) : Option V4 :=
  match cs.splitOn '.' with
  | [a, b, c, d] => do
    some (ofOctets (← octet? a) (← octet? b) (← octet? c) (← octet? d))
  | _ => none

/-- Reads an address that makes up the whole text. -/
def ofText? (text : String) : Option V4 :=
  ofChars? text.toList

end V4

end FieldSurvey.Address
