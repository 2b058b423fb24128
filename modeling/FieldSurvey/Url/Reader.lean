import FieldSurvey.Url.Basic
import FieldSurvey.Url.Path

/-!
# Reading urls

A url is read from left to right: scheme, authority, path, query, fragment.
Blanks around it and line breaks inside it do not count.  For the special
schemes a backslash is as good as a slash, an authority must be there, and the
port that the scheme implies is dropped.
-/

namespace FieldSurvey.Url

/-- The special schemes and the ports that they imply. -/
def impliedPorts : List (String × Nat) :=
  [("http", 80), ("https", 443), ("ws", 80), ("wss", 443), ("ftp", 21)]

/-- Whether a scheme is special. -/
def isSpecial (scheme : String) : Bool :=
  scheme == "file" || (impliedPorts.lookup scheme).isSome

/-- Whether a character is dropped at the ends of a text. -/
def isPadding (c : Char) : Bool :=
  c.toNat ≤ 0x20

/-- A text without what does not count. -/
def stripped (cs : List Char) : List Char :=
  let inner := ((cs.dropWhile isPadding).reverse.dropWhile isPadding).reverse
  inner.filter fun c => c != '\t' && c != '\n' && c != '\r'

/-- The scheme, in lower case, and the text after its colon. -/
def readScheme? (cs : List Char) : Option (String × List Char) := do
  let (scheme, rest) ← Text.splitOnce ':' cs
  let first ← scheme.head?
  if first.isAlpha && scheme.all (fun c => c.isAlphanum || c == '+' || c == '-' || c == '.') then
    some (String.ofList (scheme.map Text.lowerAscii), rest)
  else none

/-- Whether a character ends an authority. -/
def endsAuthority (special : Bool) (c : Char) : Bool :=
  isSlash special c || c == '?' || c == '#'

/-- The name of a user and the password after it, in written form and with the
mark that follows them. -/
def userText (cs : List Char) : String :=
  let (name, password) := (Text.splitOnce ':' cs).getD (cs, [])
  let name := encode userSet name
  let password := if password.isEmpty then [] else ':' :: encode userSet password
  if name.isEmpty && password.isEmpty then "" else String.ofList (name ++ password ++ ['@'])

/-- The host of an authority, and what follows it: the first colon outside
brackets ends a host. -/
def splitHost (inBrackets : Bool) : List Char → List Char × List Char
  | [] => ([], [])
  | c :: rest =>
    if c == ':' && !inBrackets then ([], c :: rest)
    else
      let (host, after) := splitHost (c == '[' || (inBrackets && c != ']')) rest
      (c :: host, after)

/-- The port after a colon; none if there are no digits or the scheme implies
it.  A backslash ends the port of any scheme, and the path begins with it. -/
def readPort? (scheme : String) (cs : List Char) : Option (Option Nat × List Char) := do
  let digits := cs.takeWhile Char.isDigit
  let rest := cs.drop digits.length
  let value := digits.foldl (fun value c => value * 10 + (c.toNat - '0'.toNat)) 0
  if Number.maxShort < value || !(rest.isEmpty || rest.head? == some '\\') then none
  else if digits.isEmpty || impliedPorts.lookup scheme = some value then some (none, rest)
  else some (some value, rest)

/-- The host of a scheme.  That of a scheme that is not special may be empty. -/
def readHost? (scheme : String) (cs : List Char) : Option (Option Host) :=
  if isSpecial scheme then (Host.special? cs).map some
  else if cs.isEmpty then some none
  else (Host.opaque? cs).map some

/-- An authority, and what is left of it for the path.  An at sign without a user in
front of it needs a host behind it, unless it ends the url. -/
def readAuthority? (scheme : String) (endsUrl : Bool) (cs : List Char) :
    Option (Authority × List Char) := do
  let (user, rest) := (Text.splitLast '@' cs).getD ([], cs)
  let isLoneMark := user.isEmpty && rest.length < cs.length && rest.isEmpty
  if isLoneMark && !endsUrl then none
  else
    let user := userText user
    let (hostChars, after) := splitHost false rest
    let host ← readHost? scheme hostChars
    match after with
    | ':' :: digits =>
      if host.isNone then none
      else
        let (port, left) ← readPort? scheme digits
        some ({ user, host, port }, left)
    | _ => if host.isNone && !user.isEmpty then none else some ({ user, host }, [])

/-- Cuts the fragment and the query off. -/
def cutTail (cs : List Char) : List Char × Option (List Char) × Option (List Char) :=
  let (front, fragment) := match Text.splitOnce '#' cs with
    | some (front, fragment) => (front, some fragment)
    | none => (cs, none)
  match Text.splitOnce '?' front with
  | some (front, query) => (front, some query, fragment)
  | none => (front, none, fragment)

/-- Authority and path of a text that begins with an authority. -/
def readLocated? (scheme : String) (endsUrl : Bool) (cs : List Char) :
    Option (Option Authority × String) := do
  let special := isSpecial scheme
  let chars := cs.takeWhile fun c => !endsAuthority special c
  let path := cs.drop chars.length
  let (authority, left) ← readAuthority? scheme (endsUrl && path.isEmpty) chars
  some (some authority, pathAfter special (left ++ path))

/-- The host of a file; none if it is empty or this machine. -/
def readFileHost? (cs : List Char) : Option (Option Host) :=
  if cs.isEmpty then some none
  else (Host.special? cs).map fun host => if host = .name "localhost" then none else some host

/-- Authority and path of a file, from its host on.  A drive is no host, and a path
that begins with a drive has none. -/
def readFile? (cs : List Char) : Option (Option Authority × String) := do
  let chars := cs.takeWhile fun c => !isSlash true c
  let path := cs.drop chars.length
  if isDrive chars then some (some {}, filePathText cs)
  else
    match ← readFileHost? chars with
    | none => some (some {}, filePathText path)
    | some host =>
      let path := path.drop 1
      some (some { host := if beginsWithDrive path then none else some host }, filePathText path)

/-- Authority and path of the text between scheme and query; `endsUrl` says that
neither query nor fragment follows. -/
def readHierarchy? (scheme : String) (endsUrl : Bool) (cs : List Char) :
    Option (Option Authority × String) :=
  if scheme == "file" then
    match cs with
    | a :: b :: rest =>
      if isSlash true a && isSlash true b then readFile? rest
      else some (some {}, filePathText cs)
    | _ => some (some {}, filePathText cs)
  else if isSpecial scheme then readLocated? scheme endsUrl (cs.dropWhile (isSlash true))
  else
    match cs with
    | '/' :: '/' :: rest => readLocated? scheme endsUrl rest
    | '/' :: rest => some (none, pathText false rest)
    | _ => some (none, String.ofList (encode opaqueSet cs))

/-- Reads a url. -/
def ofText? (text : String) : Option Url := do
  let (scheme, rest) ← readScheme? (stripped text.toList)
  let (front, query, fragment) := cutTail rest
  let (authority, path) ← readHierarchy? scheme (query.isNone && fragment.isNone) front
  some {
    scheme
    authority
    path
    query := query.map fun cs => String.ofList (encode (querySet (isSpecial scheme)) cs)
    fragment := fragment.map fun cs => String.ofList (encode fragmentSet cs) }

end FieldSurvey.Url
