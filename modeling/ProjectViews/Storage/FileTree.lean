/-
The files and folders of a machine, with what the files hold.

Every place is known by the steps that lead to it from the root.  A path is a text with
slashes between names; it starts at the root when it starts with a slash, and at the
working folder otherwise.

A path can be followed in two ways.  One goes from folder to folder: whatever stands
before a slash must be a folder, and two dots go back to the folder that holds it.  The
other goes by the names alone: two dots take back the name before them, whether or not
there is anything of that name; only what is known to be no folder is in the way.
-/
import ProjectViews.Text.Split

namespace ProjectViews

/-- What stands at a place. -/
inductive Entry (α : Type) where
  | file (contents : α)
  | folder
  /-- A folder in which nothing can be made. -/
  | sealedFolder
  /-- Something that takes what is written and keeps nothing. -/
  | device
deriving Repr, Inhabited

/-- Whether other places lie below a place. -/
def Entry.isFolder {α : Type} : Entry α → Bool
  | folder | sealedFolder => true
  | file _ | device => false

/-- The places of a machine, in no particular order. -/
structure FileTree (α : Type) where
  /-- The working folder. -/
  home : List String
  entries : List (List String × Entry α)
deriving Repr, Inhabited

namespace FileTree

variable {α : Type}

/-! ### Places -/

/-- What stands at a place.  The root is a folder. -/
def at? (t : FileTree α) (place : List String) : Option (Entry α) :=
  if place.isEmpty then some .folder
  else (t.entries.find? fun e => e.1 == place).map (·.2)

/-- Whether there is a folder at a place. -/
def isFolder (t : FileTree α) (place : List String) : Bool :=
  ((t.at? place).map Entry.isFolder).getD false

/-- The places of a machine with something at a place. -/
def put (t : FileTree α) (place : List String) (entry : Entry α) : FileTree α :=
  { t with entries := t.entries.filter (fun e => e.1 != place) ++ [(place, entry)] }

/-- The places of a machine with a folder at a place and at all on the way to it. -/
def putFolders (t : FileTree α) : (here rest : List String) → FileTree α
  | _, [] => t
  | here, name :: rest => putFolders (t.put (here ++ [name]) .folder) (here ++ [name]) rest

/-! ### Paths -/

/-- How many bytes a name may have. -/
def nameLimit : Nat := 255

/-- How many bytes a path has at least that is too long. -/
def pathLimit : Nat := 4096

/-- Whether a name is short enough. -/
def fits (name : String) : Bool := name.utf8ByteSize ≤ nameLimit

/-- Whether a text may be a path: it is not too long, and no character is zero. -/
def isPath (path : String) : Bool :=
  path.utf8ByteSize < pathLimit && !path.toList.contains (Char.ofNat 0)

/-- The place where a path starts. -/
def start (t : FileTree α) (path : String) : List String :=
  if Text.startsWith path "/" then [] else t.home

/-- One step from folder to folder.  There may be nothing at the place it leads to. -/
def step? (t : FileTree α) (here : List String) (name : String) : Option (List String) :=
  if !t.isFolder here then none
  else if name = "" ∨ name = "." then some here
  else if name = ".." then some here.dropLast
  else if fits name then some (here ++ [name]) else none

/-- The place that a path leads to from folder to folder. -/
def follow? (t : FileTree α) (path : String) : Option (List String) :=
  if isPath path then (Text.split "/" path).foldlM t.step? (t.start path) else none

/-- How many bytes the path of a place has. -/
def pathSize (place : List String) : Nat :=
  place.foldl (fun size name => size + name.utf8ByteSize + 1) 0

/-- One step by names alone, to a path of at most so many bytes. -/
def namedStep? (t : FileTree α) (limit : Nat) (here : List String) (name : String) :
    Option (List String) :=
  let there := here ++ [name]
  if name = "" ∨ name = "." then some here
  else if name = ".." then some here.dropLast
  else if limit < pathSize there ∨ !fits name then none
  else
    match t.at? here with
    | some entry => if entry.isFolder then some there else none
    | none => some there

/-- The place that a path names, when none on the way has a path of more bytes than the
limit. -/
def named? (t : FileTree α) (limit : Nat) (path : String) : Option (List String) :=
  (Text.split "/" path).foldlM (t.namedStep? limit) (t.start path)

/-! ### Folders -/

/-- Makes the folders that steps from a folder lead through.  It stops at the first
that cannot be made, and says whether there was none. -/
def makeFrom (t : FileTree α) (here : List String) : List String → FileTree α × Bool
  | [] => (t, true)
  | name :: rest =>
    if name = "" ∨ name = "." then makeFrom t here rest
    else if name = ".." then makeFrom t here.dropLast rest
    else
      let there := here ++ [name]
      match t.at? there with
      | some entry => if entry.isFolder then makeFrom t there rest else (t, false)
      | none =>
        match fits name, t.at? here with
        | true, some .folder => makeFrom (t.put there .folder) there rest
        | _, _ => (t, false)

/-- Makes the folder of a path and those on the way to it. -/
def make (t : FileTree α) (path : String) : FileTree α × Bool :=
  if isPath path then t.makeFrom (t.start path) (Text.split "/" path) else (t, false)

/-! ### Listings -/

/-- Puts a name at its place in a sorted list of names. -/
def insertSorted (name : String) : List String → List String
  | [] => [name]
  | n :: rest => if name < n then name :: n :: rest else n :: insertSorted name rest

/-- The path of an entry from the working folder, if it lies below that; that of a
folder has a slash at the end. -/
def listed? (t : FileTree α) (place : List String) (entry : Entry α) : Option String :=
  let steps := place.drop t.home.length
  if t.home.isPrefixOf place && !steps.isEmpty then
    some (Text.join "/" steps ++ if entry.isFolder then "/" else "")
  else none

/-- The paths of all places below the working folder, sorted. -/
def listing (t : FileTree α) : List String :=
  (t.entries.filterMap fun (place, entry) => t.listed? place entry).foldl
    (fun names name => insertSorted name names) []

end FileTree

end ProjectViews
