import FieldSurvey.Url.Percent

/-!
# Paths of urls

A path is a list of segments.  One point stands for the place where one is, two
points go back by one segment, but never behind a drive.  For the special schemes a
backslash is as good as a slash.
-/

namespace FieldSurvey.Url

/-- Whether a character ends an authority or a segment of a path. -/
def isSlash (special : Bool) (c : Char) : Bool :=
  c == '/' || (special && c == '\\')

/-- A segment with every way to write its points undone. -/
def plainDots : List Char → List Char
  | '%' :: '2' :: 'e' :: rest => '.' :: plainDots rest
  | '%' :: '2' :: 'E' :: rest => '.' :: plainDots rest
  | c :: rest => c :: plainDots rest
  | [] => []

/-- Whether a segment names a drive: a letter, and a colon or a bar. -/
def isDrive : List Char → Bool
  | [c, mark] => c.isAlpha && (mark == ':' || mark == '|')
  | _ => false

/-- The segments one step back, in reverse. -/
def stepBack : List (List Char) → List (List Char)
  | [] => []
  | last :: rest => if isDrive last then last :: rest else rest

/-- Walks along the segments of a path.  `walked` holds the segments so far in
reverse. -/
def walk (walked : List (List Char)) : List (List Char) → List (List Char)
  | [] => walked.reverse
  | segment :: rest =>
    let atEnd := if rest.isEmpty then [[]] else []
    if plainDots segment = ['.', '.'] then walk (atEnd ++ stepBack walked) rest
    else if plainDots segment = ['.'] then walk (atEnd ++ walked) rest
    else walk (encode pathSet segment :: walked) rest

/-- Segments with a slash between each two of them. -/
def joinedSegments (segments : List (List Char)) : List Char :=
  ['/'].intercalate segments

/-- The written form of a path that begins with a slash, which is left out of
the text. -/
def pathText (special : Bool) (cs : List Char) : String :=
  "/" ++ String.ofList (joinedSegments (walk [] (cs.splitOnP (isSlash special))))

/-- The path after an authority. -/
def pathAfter (special : Bool) (cs : List Char) : String :=
  match cs with
  | [] => if special then "/" else ""
  | c :: rest => if isSlash special c then pathText special rest else pathText special (c :: rest)

/-- Whether the first segment of a path of a file names a drive. -/
def beginsWithDrive (cs : List Char) : Bool :=
  (cs.splitOnP (isSlash true)).head?.any isDrive

/-- The segments of a path of a file, where a colon follows the letter of a drive
that comes first. -/
def fileSegments (cs : List Char) : List (List Char) :=
  match cs.splitOnP (isSlash true) with
  | first :: rest => (if isDrive first then first.take 1 ++ [':'] else first) :: rest
  | [] => []

/-- The written form of the path of a file, which begins with one slash alone. -/
def filePathText (cs : List Char) : String :=
  "/" ++ String.ofList ((joinedSegments (walk [] (fileSegments cs))).dropWhile (· == '/'))

end FieldSurvey.Url
