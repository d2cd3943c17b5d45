/-
Requests and responses as they travel.

A request is a line that says what is wanted, and headers; the server is told to hang
up after its answer, so that the answer is everything up to there.  A response is a
line with its status code, headers, an empty line and the body.
-/
import ProjectViews.Server.Client

namespace ProjectViews

/-- The end of a line that travels. -/
def lineEnd : String := "\r\n"

namespace Request

/-- The host of a request, without brackets. -/
def host (r : Request) : String :=
  match r.url.authority.bind (·.host) with
  | some (.ipv6 pieces) => String.ofList (Url.writeIpv6 pieces)
  | some host => host.write
  | none => ""

/-- The port of a request. -/
def port (r : Request) : Nat :=
  match r.url.authority.bind (·.port) with
  | some port => port
  | none => (Url.defaultPort? r.url.scheme).getD 80

/-- What is asked of the host: the path and the query. -/
def target (r : Request) : String :=
  r.url.path.write ++ match r.url.query with
    | some q => "?" ++ q
    | none => ""

/-- A request as it travels. -/
def message (r : Request) : String :=
  let host := match r.url.authority with
    | some a => a.writeHost
    | none => ""
  Text.join lineEnd
    ["GET " ++ r.target ++ " HTTP/1.0", "Host: " ++ host, "Accept: application/json",
     "Connection: close", "", ""]

end Request

namespace Response

/-- The characters of the same numbers as some bytes. -/
def charsOf (bytes : List Utf8.Byte) : List Char := bytes.map fun b => Char.ofNat b.val

/-- The value of a header. -/
def header? (name : String) : List String → Option String
  | [] => none
  | line :: rest =>
    match Text.cutAt ":" line with
    | some (found, value) =>
      if Text.sameLetters found name then some (Text.trim value) else header? name rest
    | none => header? name rest

/-- The status code of the first line of a response. -/
def status? (line : String) : Option UInt16 := do
  let (version, rest) ← Text.cutAt " " line
  if Text.startsWith version "HTTP/1." then do
    let digits ← Number.digitsOf? (rest.toList.take 3)
    if digits.length = 3 then some (UInt16.ofNat (Number.ofDigits digits)) else none
  else none

/-- The response that bytes write. -/
def ofMessage? (bytes : List Utf8.Byte) : Option Response := do
  let (head, rest) ← Text.cut? (lineEnd ++ lineEnd).toList (charsOf bytes)
  match Text.split lineEnd (String.ofList head) with
  | first :: headers => do
    let status ← status? first
    pure ⟨status, header? "content-type" headers, bytes.drop (bytes.length - rest.length)⟩
  | [] => none

end Response

end ProjectViews
