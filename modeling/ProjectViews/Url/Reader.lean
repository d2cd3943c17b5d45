/-
Reading URLs.

A text is a URL of its own when it starts with a scheme and a colon; otherwise it is a
reference, which means something only against a base.  Control characters and spaces
at the two ends do not count, and neither do tabs and line ends anywhere.  In the known
schemes a backslash is a slash.
-/
import ProjectViews.Url.Basic

namespace ProjectViews

namespace Url

/-- The text of a URL without what does not count in it. -/
def clean (s : String) : List Char :=
  let atEnd (c : Char) : Bool := c.toNat ≤ 32
  ((((s.toList.dropWhile atEnd).reverse).dropWhile atEnd).reverse).filter fun c =>
    !(c == '\t' || c == '\n' || c == '\r')

/-! ### The parts of a URL -/

/-- The scheme in front of a text and what follows its colon. -/
def scheme? (cs : List Char) : Option (String × List Char) :=
  match cs with
  | [] => none
  | c :: _ =>
    if !c.isAlpha then none
    else
      let name := cs.takeWhile fun c => c.isAlphanum || c == '+' || c == '-' || c == '.'
      match cs.drop name.length with
      | ':' :: rest => some (String.ofList (name.map Char.toLower), rest)
      | _ => none

/-- What stands before the query and the fragment, and what these are. -/
def cutPath (known : Bool) (cs : List Char) : List Char × Option String × Option String :=
  let (front, fragment) := match Text.cut? ['#'] cs with
    | some (front, rest) => (front, some (String.ofList (Percent.encode inFragment rest)))
    | none => (cs, none)
  let (path, query) := match Text.cut? ['?'] front with
    | some (path, rest) => (path, some (String.ofList (Percent.encode (inQuery known) rest)))
    | none => (front, none)
  (path, query, fragment)

/-! ### Authorities -/

/-- The host in front of a text, up to a colon outside of brackets, and the rest. -/
def cutHost : (inBrackets : Bool) → List Char → List Char × List Char
  | _, [] => ([], [])
  | inBrackets, c :: cs =>
    if c = ':' ∧ ¬ inBrackets then ([], c :: cs)
    else
      let inBrackets := if c = '[' then true else if c = ']' then false else inBrackets
      let (host, rest) := cutHost inBrackets cs
      (c :: host, rest)

/-- A text up to the last sign that ends a user, and what follows it. -/
def cutUser (cs : List Char) : Option (List Char × List Char) :=
  let back := cs.reverse.takeWhile (· != '@')
  if back.length = cs.length then none
  else some (cs.take (cs.length - back.length - 1), back.reverse)

/-- A user and a password. -/
def readUser (cs : List Char) : String × Option String :=
  let encode (cs : List Char) : String := String.ofList (Percent.encode inUser cs)
  match Text.cut? [':'] cs with
  | some (name, []) => (encode name, none)
  | some (name, password) => (encode name, some (encode password))
  | none => (encode cs, none)

/-- The port in front of a text, and what follows it.  A backslash ends a port in every
scheme. -/
def readPort (scheme : String) (cs : List Char) :
    Except Problem (Option Nat × List Char) :=
  let (digits, rest) := Number.takeDigits cs
  let n := Number.ofDigits digits
  match rest with
  | [] | '\\' :: _ =>
    if 65535 < n then .error .invalidPort
    else .ok (if digits.isEmpty ∨ defaultPort? scheme = some n then none else some n, rest)
  | _ => .error .invalidPort

/-- The host and the port in front of a text, and what follows them.  A host may be
missing in an unknown scheme, when neither a user nor a port says whose they are. -/
def readHost (scheme : String) (hasUser : Bool) (cs : List Char) :
    Except Problem (Option Host × Option Nat × List Char) := do
  let (text, rest) := cutHost false cs
  if text.isEmpty then
    if isKnown scheme ∨ hasUser ∨ ¬ rest.isEmpty then .error .emptyHost
    else .ok (none, none, [])
  else
    let host ← if isKnown scheme then Host.parse text else Host.parseOpaque text
    match rest with
    | [] => .ok (some host, none, [])
    | _ :: rest => do
      let (port, rest) ← readPort scheme rest
      .ok (some host, port, rest)

/-- The authority in front of a text, and what follows it.  The sign that ends a user
may stand alone only at the end of a URL. -/
def readAuthority (scheme : String) (atEnd : Bool) (cs : List Char) :
    Except Problem (Authority × List Char) := do
  let (user, host) := (cutUser cs).getD ([], cs)
  if cs = ['@'] ∧ ¬ atEnd then .error .emptyHost
  else
    let (username, password) := readUser user
    let (host, port, rest) ←
      readHost scheme (!username.isEmpty || password.isSome) host
    .ok (⟨username, password, host, port⟩, rest)

/-- A URL behind the two slashes in front of its authority. -/
def readAbsolute (scheme : String) (cs : List Char) : Except Problem Url := do
  let known := isKnown scheme
  let (front, query, fragment) := cutPath known cs
  let authority := front.takeWhile fun c => !isSlash known c
  let path := front.drop authority.length
  let (a, rest) ←
    readAuthority scheme (path.isEmpty && query.isNone && fragment.isNone) authority
  let segments := match rest ++ path with
    | [] => if known then [""] else []
    | c :: path => readPath known [] (if isSlash known c then path else c :: path)
  .ok ⟨scheme, some a, .segments segments, query, fragment⟩

/-! ### References -/

/-- A reference against a base of segments. -/
def readRelative (base : Url) (cs : List Char) : Except Problem Url :=
  let known := isKnown base.scheme
  let (path, query, fragment) := cutPath known cs
  match path with
  | [] =>
    let query := if query.isSome then query else base.query
    .ok { base with query := query, fragment := fragment }
  | a :: rest =>
    if a = '/' ∨ a = '\\' then
      match rest with
      | b :: _ =>
        if b = '/' ∨ b = '\\' then
          let slashes := cs.takeWhile fun c => c == '/' || c == '\\'
          let skipped := if a = '/' ∧ b = '/' then 2 else slashes.length
          readAbsolute base.scheme (cs.drop skipped)
        else .ok { base with path := .segments (readPath known [] rest), query, fragment }
      | [] => .ok { base with path := .segments [""], query, fragment }
    else
      .ok { base with path := .segments (readPath known base.path.toSegments.dropLast path),
                      query, fragment }

/-! ### Files -/

/-- The host and the path of a file behind two slashes.  A drive is no host, the host of
the machine itself is none, and a path that starts with a drive has none either. -/
def readFileHost (cs : List Char) : Except Problem (Option Host × List String) := do
  let text := cs.takeWhile fun c => !isSlash true c
  let rest := cs.drop text.length
  if isDrive text then .ok (none, readFilePath [] cs)
  else
    let host ← if text.isEmpty then .ok none else some <$> Host.parse text
    if host = none ∨ host = some (.domain "localhost") then .ok (none, readFilePath [] rest)
    else
      let segments := readPath true [] (rest.drop 1)
      .ok (if hasDrive segments then none else host, tidy segments)

/-- Where the path of a file starts when a text names it from the root: in the drive of
the base or on its host, unless the text names a drive itself. -/
def fileRoot (base : Option Url) (cs : List Char) : Option Host × List String :=
  match base with
  | none => (none, [])
  | some base =>
    let first := base.path.toSegments.head?.getD ""
    if startsWithDrive cs then (none, [])
    else if isWrittenDrive first then (none, [first])
    else (base.authority.bind (·.host), [])

/-- A URL of a file behind its colon, or a reference against one. -/
def readFile (base : Option Url) (cs : List Char) : Except Problem Url := do
  let (front, query, fragment) := cutPath true cs
  let url (host : Option Host) (segments : List String) : Url :=
    ⟨"file", some ⟨"", none, host, none⟩, .segments segments, query, fragment⟩
  match (front.takeWhile (isSlash true)).length with
  | 0 =>
    match base with
    | none => .ok (url none (readFilePath [] front))
    | some base =>
      if front.isEmpty then
        .ok { base with query := if query.isSome then query else base.query, fragment }
      else if startsWithDrive front then .ok (url none (readFilePath [] front))
      else
        .ok { base with path := .segments (readFilePath (folderOf base.path.toSegments) front),
                        query, fragment }
  | 1 =>
    let (host, segments) := fileRoot base (front.drop 1)
    .ok (url host (readFilePath segments (front.drop 1)))
  | _ => do
    let (host, segments) ← readFileHost (front.drop 2)
    .ok (url host segments)

/-! ### URLs -/

/-- What stands behind a scheme and its colon. -/
def readScheme (base : Option Url) (scheme : String) (cs : List Char) : Except Problem Url :=
  if scheme = "file" then readFile (base.filter fun b => b.scheme == "file") cs
  else if isKnown scheme then
    let slashes := (cs.takeWhile fun c => c == '/' || c == '\\').length
    match base with
    | some b =>
      if slashes < 2 ∧ b.scheme = scheme then readRelative b cs
      else readAbsolute scheme (cs.drop slashes)
    | none => readAbsolute scheme (cs.drop slashes)
  else
    match cs with
    | '/' :: '/' :: rest => readAbsolute scheme rest
    | '/' :: _ =>
      let (path, query, fragment) := cutPath false cs
      .ok ⟨scheme, none, .segments (readPath false [] (path.drop 1)), query, fragment⟩
    | _ =>
      let (path, query, fragment) := cutPath false cs
      .ok ⟨scheme, none, .opaqueText (String.ofList (Percent.encode isControl path)), query,
        fragment⟩

/-- The URL that a text writes. -/
def parse (s : String) : Except Problem Url :=
  let cs := clean s
  match scheme? cs with
  | some (scheme, rest) => readScheme none scheme rest
  | none => .error .relativeWithoutBase

/-- The URL that a text means against a base. -/
def join (base : Url) (s : String) : Except Problem Url :=
  let cs := clean s
  match scheme? cs with
  | some (scheme, rest) => readScheme (some base) scheme rest
  | none =>
    match cs with
    | '#' :: rest =>
      .ok { base with fragment := some (String.ofList (Percent.encode inFragment rest)) }
    | _ =>
      if base.isOpaque then .error .relativeToOpaque
      else if base.scheme = "file" then readFile (some base) cs
      else readRelative base cs

end Url

end ProjectViews
