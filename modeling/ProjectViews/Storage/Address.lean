/-
Database addresses.

An address names a database file, or a database in memory, and may carry parameters
behind a question mark.  What a person writes is first made an address: a plain path
becomes the address of that file, and nothing at all the default one.
-/
import ProjectViews.Storage.Engine
import ProjectViews.Text.Blank

namespace ProjectViews

namespace Address

/-- Where the database is unless something else is said. -/
def default : String := "sqlite://./data/projects.db"

/-- The start of every address. -/
def scheme : String := "sqlite:"

/-- The start of the addresses of databases in memory. -/
def memory : String := "sqlite::memory:"

/-- The address that a person means. -/
def normalize (raw : String) : String :=
  let raw := Text.trim raw
  if raw.isEmpty then default
  else if Text.startsWith raw scheme || Text.holds raw "://" then raw
  else "sqlite://" ++ String.ofList (raw.toList.map fun c => if c = '\\' then '/' else c)

/-- What follows all repetitions of `lead` at the front of a text, for at most `fuel`
of them. -/
def dropAll (lead : String) : (fuel : Nat) → String → String
  | 0, s => s
  | fuel + 1, s =>
    match Text.afterStart? lead s with
    | some rest => dropAll lead fuel rest
    | none => s

/-- An address without the scheme in front of it. -/
def body (address : String) : String :=
  dropAll scheme address.length (dropAll "sqlite://" address.length address)

/-- The path of an address as it is written, and its parameters. -/
def parts (address : String) : String × Option String :=
  match Text.cutAt "?" (body address) with
  | some (path, parameters) => (path, some parameters)
  | none => (body address, none)

/-- The parent of a path as it is written: what stands before its last name.  There is
none for an empty path and for the root. -/
def parent? (path : String) : Option String :=
  let names := (Text.split "/" path).reverse.dropWhile fun n => n = "" ∨ n = "."
  match names with
  | _ :: rest =>
    match rest.dropWhile fun n => n = "" ∨ n = "." with
    | [] => some (if rest.isEmpty then ""
        else if rest.getLast? = some "" then "/"
        else if rest.getLast? = some "." then "." else "")
    | rest => some (Text.join "/" rest.reverse)
  | [] => none

/-- The folder that an address needs, when it names a file in one. -/
def neededFolder? (address : String) : Option String :=
  if Text.startsWith address memory || !Text.startsWith address scheme then none
  else
    let (path, _) := parts address
    if path.isEmpty then none
    else
      match parent? path with
      | some parent => if parent.isEmpty then none else some parent
      | none => none

/-- What an address asks for. -/
structure Options where
  /-- The name of the file. -/
  name : String
  inMemory : Bool
  isReadOnly : Bool
  isImmutable : Bool
  driver : Option String
deriving DecidableEq, Repr, Inhabited

/-- What can be wrong with the parameters of an address. -/
inductive Problem where
  /-- A path or a parameter is no text. -/
  | notText
  | unknownParameter (name : String)
  | unknownValue (name value : String)
deriving DecidableEq, Repr, Inhabited

/-- A character of a value between quotes. -/
def escape (c : Char) : List Char :=
  if c = '"' then ['\\', '"']
  else if c = '\\' then ['\\', '\\']
  else if c = '\n' then ['\\', 'n']
  else if c = '\r' then ['\\', 'r']
  else if c = '\t' then ['\\', 't']
  else if c.toNat = 0 then ['\\', '0']
  else [c]

/-- A value between quotes. -/
def quote (s : String) : String := "\"" ++ String.ofList (s.toList.flatMap escape) ++ "\""

/-- A problem in words. -/
def Problem.message : Problem → String
  | notText => "invalid utf-8 sequence"
  | unknownParameter name =>
    "unknown query parameter `" ++ name ++ "` while parsing connection URL"
  | unknownValue name value => "unknown value " ++ quote value ++ " for `" ++ name ++ "`"

/-- The names and values of parameters. -/
def pairs (parameters : String) : List (String × String) :=
  ((Text.split "&" parameters).filter fun p => p ≠ "").map fun p =>
    let (name, value) := (Text.cutAt "=" p).getD (p, "")
    (String.ofList (Form.decode name.toList), String.ofList (Form.decode value.toList))

/-- The options with one more parameter, unless it makes no sense. -/
def Options.add (o : Options) (name value : String) : Except Problem Options :=
  let unknown : Except Problem Options := .error (.unknownValue name value)
  if name = "mode" then
    if value = "ro" then .ok { o with isReadOnly := true }
    else if value = "rw" ∨ value = "rwc" then .ok o
    else if value = "memory" then .ok { o with name := "", inMemory := true }
    else unknown
  else if name = "cache" then if value = "private" ∨ value = "shared" then .ok o else unknown
  else if name = "immutable" then
    if value = "true" ∨ value = "1" then .ok { o with isImmutable := true }
    else if value = "false" ∨ value = "0" then .ok { o with isImmutable := false }
    else unknown
  else if name = "vfs" then .ok { o with driver := some value }
  else .error (.unknownParameter name)

/-- What an address asks for, unless it makes no sense.  One without a path asks for a
database of its own. -/
def options (address : String) : Except Problem Options :=
  let (path, parameters) := parts address
  match Percent.decodeText? path.toList with
  | some name =>
    let plain : Options :=
      if path = Engine.memoryName then ⟨"", true, false, false, none⟩
      else ⟨String.ofList name, false, false, false, none⟩
    (pairs (parameters.getD "")).foldlM (fun o (name, value) => o.add name value) plain
  | none => .error .notText

/-- What the engine is told beside the name of the file. -/
def Options.settings (o : Options) : List (String × String) :=
  (if o.isImmutable then [("immutable", "true")] else [])
    ++ (o.driver.map fun driver => ("vfs", driver)).toList

/-- The name that the engine is told. -/
def Options.engineName (o : Options) : String :=
  if o.settings.isEmpty then o.name
  else String.ofList (Engine.longMark
    ++ Percent.encode (fun c => !c.isAlphanum) o.name.toList
    ++ '?' :: Form.encodePairs (o.settings.map fun (name, value) => (name.toList, value.toList)))

/-- How the engine opens what is asked for.  A file that is missing is made. -/
def Options.opening? (o : Options) : Option Engine.Opening :=
  Engine.opening? o.engineName (if o.isReadOnly then .read else .create) o.inMemory

end Address

end ProjectViews
