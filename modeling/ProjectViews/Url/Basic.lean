/-
URLs, and how they are written.

A URL has a scheme, perhaps an authority (a user, a host and a port), a path, perhaps a
query and perhaps a fragment.  All parts are kept percent-encoded.
-/
import ProjectViews.Url.Host
import ProjectViews.Url.Path

namespace ProjectViews

namespace Url

/-- The user, the host and the port of a URL. -/
structure Authority where
  username : String
  password : Option String
  host : Option Host
  port : Option Nat
deriving DecidableEq, Repr, Inhabited

end Url

/-- A URL. -/
structure Url where
  scheme : String
  authority : Option Url.Authority
  path : Url.Path
  query : Option String
  fragment : Option String
deriving DecidableEq, Repr, Inhabited

namespace Url

/-- The port of a scheme, unless a URL names another. -/
def defaultPort? (scheme : String) : Option Nat :=
  if scheme = "http" ∨ scheme = "ws" then some 80
  else if scheme = "https" ∨ scheme = "wss" then some 443
  else if scheme = "ftp" then some 21
  else none

/-- Whether a scheme is one of those whose URLs always have a host. -/
def isKnown (scheme : String) : Bool := (defaultPort? scheme).isSome || scheme == "file"

/-- Whether a URL is fetched over the web. -/
def isWeb (u : Url) : Bool := u.scheme == "http" || u.scheme == "https"

/-- Whether a URL can be no base for others. -/
def isOpaque (u : Url) : Bool :=
  match u.path with
  | .opaqueText _ => true
  | .segments _ => false

/-- The user and the password of an authority, with the sign behind them. -/
def Authority.writeUser (a : Authority) : String :=
  match a.password with
  | none => if a.username.isEmpty then "" else a.username ++ "@"
  | some password => a.username ++ ":" ++ password ++ "@"

/-- The host and the port of an authority. -/
def Authority.writeHost (a : Authority) : String :=
  (match a.host with
    | some host => host.write
    | none => "")
  ++ match a.port with
    | some port => ":" ++ Number.write port
    | none => ""

/-- A URL without its query and its fragment. -/
def writeUpToPath (u : Url) : String :=
  u.scheme ++ ":"
    ++ (match u.authority with
      | some a => "//" ++ a.writeUser ++ a.writeHost
      | none =>
        match u.path with
        | .segments ("" :: _ :: _) => "/."
        | _ => "")
    ++ u.path.write

/-- A URL as text. -/
def write (u : Url) : String :=
  u.writeUpToPath
    ++ (match u.query with
      | some q => "?" ++ q
      | none => "")
    ++ match u.fragment with
      | some f => "#" ++ f
      | none => ""

/-- A URL whose path ends in a slash. -/
def withTrailingSlash (u : Url) : Url :=
  { u with path := u.path.withTrailingSlash (u.scheme == "file") }

/-- A URL with more pairs in its query. -/
def addQuery (u : Url) (pairs : List (String × String)) : Url :=
  if pairs.isEmpty then u
  else
    let more := String.ofList (Form.encodePairs (pairs.map fun (n, v) => (n.toList, v.toList)))
    { u with
      query := some (match u.query with
        | some q => if q.isEmpty then more else q ++ "&" ++ more
        | none => more) }

end Url

end ProjectViews
