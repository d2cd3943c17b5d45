/-
Failures of a request to the server.

A request fails in one of three ways: the server answers with an error status, the
answer does not arrive at all, or it arrives and cannot be read.  What a person is
told prefers the server's own words, the `detail` of the error body, and otherwise
depends on the kind of the error.
-/
import ProjectViews.Json.Value

namespace ProjectViews

/-- The kinds of error that a person is told apart. -/
inductive ErrorCode where
  | unauthorized
  | forbidden
  | notFound
  | validation
  | rateLimited
  | internal
  | unavailable
deriving DecidableEq, Repr, Inhabited

namespace ErrorCode

/-- All kinds. -/
def all : List ErrorCode :=
  [unauthorized, forbidden, notFound, validation, rateLimited, internal, unavailable]

/-- The name of a kind. -/
def text : ErrorCode → String
  | unauthorized => "unauthorized"
  | forbidden => "forbidden"
  | notFound => "not_found"
  | validation => "validation"
  | rateLimited => "rate_limited"
  | internal => "internal"
  | unavailable => "unavailable"

/-- The kind with exactly this name. -/
def ofText? (s : String) : Option ErrorCode := all.find? fun c => c.text == s

/-- The kind of an error status. -/
def ofStatus (status : UInt16) : ErrorCode :=
  if status = 400 ∨ status = 422 then validation
  else if status = 401 then unauthorized
  else if status = 403 then forbidden
  else if status = 404 then notFound
  else if status = 429 then rateLimited
  else if 502 ≤ status ∧ status ≤ 504 then unavailable
  else internal

end ErrorCode

/-- A failed request. -/
inductive Failure where
  /-- The server answered with an error status, and perhaps with a body that explains
  it. -/
  | status (status : UInt16) (reason : String) (body : Option Json)
  /-- No answer arrived. -/
  | transport (message : String)
  /-- The answer cannot be read. -/
  | decode (message : String)
deriving Repr, Inhabited

namespace Failure

/-- The error status of an answer. -/
def status? : Failure → Option UInt16
  | status s _ _ => some s
  | _ => none

/-- The body of an error answer. -/
def body? : Failure → Option Json
  | status _ _ body => body
  | _ => none

/-- The kind of a failure. -/
def code : Failure → ErrorCode
  | status s _ _ => ErrorCode.ofStatus s
  | transport _ => .unavailable
  | decode _ => .internal

/-- A failure in words. -/
def display : Failure → String
  | status s reason _ => "server responded " ++ Number.write s.toNat ++ " " ++ reason
  | transport message => "transport error: " ++ message
  | decode message => "malformed response: " ++ message

/-- The server's own words about a failure. -/
def detail? (f : Failure) : Option String :=
  match f.body? with
  | some body =>
    match body.get? "detail" with
    | some (.string s) => some s
    | _ => none
  | none => none

/-- What a person is told, after the context in which it happened. -/
def notification (f : Failure) (context : String) : String :=
  context ++ ": " ++
    match f.detail? with
    | some detail => detail
    | none =>
      match f.code with
      | .unauthorized => "you are not logged in"
      | .forbidden => "you do not have permission"
      | .notFound => "not found"
      | .rateLimited => "too many requests, try again later"
      | .unavailable => "server unavailable (" ++ f.display ++ ")"
      | .validation | .internal => f.display

end Failure

end ProjectViews
