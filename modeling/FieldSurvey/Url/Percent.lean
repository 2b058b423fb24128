import FieldSurvey.Number.Literal

/-!
# Percent encoding

Characters that may not stand in a part of a url are written as the bytes of
their UTF-8 form, each a percent sign and two hexadecimal digits.
-/

namespace FieldSurvey.Url

/-- The characters that are encoded wherever they stand. -/
def isControl (c : Char) : Bool :=
  c.toNat < 0x20 || 0x7F ≤ c.toNat

/-- A set of characters that a part of a url reserves. -/
abbrev Reserved := Char → Bool

/-- A set given by a text. -/
def reservedIn (text : String) : Reserved :=
  fun c => text.toList.contains c

/-- What a fragment reserves. -/
def fragmentSet : Reserved :=
  reservedIn " \"<>`"

/-- What a path reserves. -/
def pathSet : Reserved :=
  fun c => fragmentSet c || c == '#' || c == '?' || c == '\x7b' || c == '\x7d'

/-- What the name of a user and a password reserve. -/
def userSet : Reserved :=
  fun c => pathSet c || reservedIn "/:;=@[\\]^|" c

/-- What a query reserves; some schemes reserve the apostrophe as well. -/
def querySet (isSpecial : Bool) : Reserved :=
  fun c => reservedIn " \"#<>" c || (isSpecial && c == '\'')

/-- What an opaque host or path reserves: nothing beyond control characters. -/
def opaqueSet : Reserved :=
  fun _ => false

/-- The digit of a number below sixteen, in upper case. -/
def hexDigit (n : Nat) : Char :=
  Char.ofNat (if n < 10 then '0'.toNat + n else 'A'.toNat + (n - 10))

/-- A byte as a percent sign and two digits. -/
def encodeByte (byte : UInt8) : List Char :=
  ['%', hexDigit (byte.toNat / 16), hexDigit (byte.toNat % 16)]

/-- A character, encoded if it has to be. -/
def encodeChar (isReserved : Reserved) (c : Char) : List Char :=
  if isControl c || isReserved c then
    (String.singleton c).toUTF8.toList.flatMap encodeByte
  else [c]

/-- A text in which every character is encoded that has to be. -/
def encode (isReserved : Reserved) (cs : List Char) : List Char :=
  cs.flatMap (encodeChar isReserved)

/-- The bytes of a text, in which a percent sign and two digits stand for a
byte. -/
def decodeBytes : List Char → List UInt8
  | [] => []
  | '%' :: high :: low :: rest =>
    match Number.digitValue? high, Number.digitValue? low with
    | some high, some low => UInt8.ofNat (high * 16 + low) :: decodeBytes rest
    | _, _ => 0x25 :: decodeBytes (high :: low :: rest)
  | c :: rest => (String.singleton c).toUTF8.toList ++ decodeBytes rest

end FieldSurvey.Url
