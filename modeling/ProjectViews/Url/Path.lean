/-
The paths of URLs.

A path is a list of segments, or, in a URL that is no base for others, a text of its
own.  A segment of one dot says nothing and a segment of two dots takes the segment
before it away, also when the dots are percent-encoded.

A letter with a colon or a bar is a drive.  Two dots do not lead out of a drive,
wherever in a path it stands.  The path of a file may start with a drive, which is then
written with a colon, and it never starts with an empty segment that others follow.
-/
import ProjectViews.Text.Percent
import ProjectViews.Text.Split

namespace ProjectViews

namespace Url

/-! ### What is percent-encoded where -/

/-- Whether a character is a control character or not ASCII. -/
def isControl (c : Char) : Bool := c.toNat < 32 || 126 < c.toNat

/-- In a fragment. -/
def inFragment (c : Char) : Bool := isControl c || " \"<>`".toList.contains c

/-- In a path. -/
def inPath (c : Char) : Bool := inFragment c || "#?\x7b\x7d".toList.contains c

/-- In a user or a password. -/
def inUser (c : Char) : Bool := inPath c || "/:;=@[\\]^|".toList.contains c

/-- In a query. -/
def inQuery (known : Bool) (c : Char) : Bool :=
  isControl c || " \"#<>".toList.contains c || (known && c == '\'')

/-! ### Drives -/

/-- Whether two characters are a drive. -/
def isDrivePair (a b : Char) : Bool := a.isAlpha && (b == ':' || b == '|')

/-- Whether a text is a drive. -/
def isDrive : List Char → Bool
  | [a, b] => isDrivePair a b
  | _ => false

/-- Whether a text starts with a drive that the text, or a sign that may end a segment,
ends. -/
def startsWithDrive : List Char → Bool
  | [a, b] => isDrivePair a b
  | a :: b :: c :: _ => isDrivePair a b && (c == '/' || c == '\\' || c == '?' || c == '#')
  | _ => false

/-- Whether a segment is a drive written with a colon. -/
def isWrittenDrive (segment : String) : Bool :=
  isDrive segment.toList && segment.toList.getLast? == some ':'

/-- A segment in which a drive is written with a colon. -/
def writeDrive (segment : String) : String :=
  match segment.toList with
  | [a, b] => if isDrivePair a b then String.ofList [a, ':'] else segment
  | _ => segment

/-! ### Segments -/

/-- A text with its percent-encoded dots decoded, when it is nothing but dots. -/
def dots (segment : List Char) : List Char :=
  match segment with
  | ['%', '2', 'e'] => ['.']
  | ['%', '2', 'E'] => ['.']
  | ['.', '%', '2', 'e'] => ['.', '.']
  | ['.', '%', '2', 'E'] => ['.', '.']
  | ['%', '2', 'e', '.'] => ['.', '.']
  | ['%', '2', 'E', '.'] => ['.', '.']
  | ['%', '2', a, '%', '2', b] =>
    if (a = 'e' ∨ a = 'E') ∧ (b = 'e' ∨ b = 'E') then ['.', '.'] else segment
  | _ => segment

/-- The segments that two dots leave of those before them. -/
def up (found : List String) : List String :=
  match found.getLast? with
  | some segment => if startsWithDrive segment.toList then found else found.dropLast
  | none => []

/-- The segments of a path after one more: dots are carried out, and at the end they
leave an empty segment behind. -/
def step (found : List String) (isLast : Bool) (segment : List Char) : List String :=
  if dots segment = ['.', '.'] then
    if isLast then up found ++ [""] else up found
  else if dots segment = ['.'] then
    if isLast then found ++ [""] else found
  else found ++ [String.ofList (Percent.encode inPath segment)]

/-- The segments of a path after all the given ones. -/
def resolve (found : List String) : List (List Char) → List String
  | [] => found
  | [segment] => step found true segment
  | segment :: rest => resolve (step found false segment) rest

/-- Whether a character ends a segment. -/
def isSlash (known : Bool) (c : Char) : Bool := c == '/' || (known && c == '\\')

/-- The pieces of a path between its slashes. -/
def pathPieces (known : Bool) (cs : List Char) : List (List Char) :=
  Text.pieces ['/'] (cs.map fun c => if isSlash known c then '/' else c)

/-- The segments of a path behind its first slash, after those of a base. -/
def readPath (known : Bool) (base : List String) (cs : List Char) : List String :=
  resolve base (pathPieces known cs)

/-- Whether the path of a file starts with a drive. -/
def hasDrive (segments : List String) : Bool :=
  match segments with
  | first :: _ => isDrive first.toList
  | [] => false

/-- The segments of the path of a file as they are written. -/
def tidy (segments : List String) : List String :=
  let written := match segments with
    | first :: rest => writeDrive first :: rest
    | [] => []
  match written.dropWhile (·.isEmpty) with
  | [] => [""]
  | segments => segments

/-- The segments of the path of a file behind its first slash, after those of a base. -/
def readFilePath (base : List String) (cs : List Char) : List String :=
  tidy (readPath true base cs)

/-- The segments of the path of a file without the last one, unless that is a drive. -/
def folderOf (segments : List String) : List String :=
  match segments with
  | [segment] => if isWrittenDrive segment then [segment] else []
  | segments => segments.dropLast

/-! ### Paths -/

/-- The path of a URL. -/
inductive Path where
  /-- A text of its own: the URL is no base for others. -/
  | opaqueText (text : String)
  | segments (segments : List String)
deriving DecidableEq, Repr, Inhabited

/-- The segments of a path. -/
def Path.toSegments : Path → List String
  | opaqueText _ => []
  | segments s => s

/-- A path as it stands in a URL. -/
def Path.write : Path → String
  | opaqueText text => text
  | segments s => String.ofList (s.flatMap fun name => '/' :: name.toList)

/-- A path that ends in a slash.  A text of its own may not become one that starts with
a slash. -/
def Path.withTrailingSlash (ofFile : Bool) : Path → Path
  | opaqueText text =>
    if text.isEmpty then .opaqueText "%2F"
    else if Text.endsWith text "/" then .opaqueText text
    else .opaqueText (text ++ "/")
  | segments s =>
    if s.getLast? = some "" then .segments s
    else .segments (if ofFile then tidy (s ++ [""]) else s ++ [""])

end Url

end ProjectViews
