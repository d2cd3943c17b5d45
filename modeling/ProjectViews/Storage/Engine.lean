/-
How the database engine opens a file.

The engine is told a name, and whether it may write and make files.  A name that starts
with `file:` says more than where the file is: behind a question mark it may narrow what
is allowed, choose a driver and promise that the file does not change.  In it bytes may
be percent-encoded; the byte zero ends the part that it stands in.
-/
import ProjectViews.Number.Digits
import ProjectViews.Text.Caseless
import ProjectViews.Text.Percent
import ProjectViews.Text.Split

namespace ProjectViews

namespace Engine

/-- What may be done with a file, from the least to the most. -/
inductive Access where
  | read
  | write
  /-- Also a file that is missing may be written. -/
  | create
deriving DecidableEq, Repr, Inhabited

/-- Whether one access allows what another one does. -/
def Access.allows : Access → Access → Bool
  | create, _ => true
  | write, a => a != .create
  | read, a => a == .read

/-- How a file is opened. -/
structure Opening where
  name : String
  access : Access
  /-- The database is kept in memory. -/
  inMemory : Bool
  /-- The file is taken not to change, and is not changed. -/
  isImmutable : Bool
  driver : String
deriving DecidableEq, Repr, Inhabited

/-- The driver that opens files unless another one is named. -/
def defaultDriver : String := "unix"

/-- The driver that keeps everything in memory. -/
def memoryDriver : String := "memdb"

/-- The drivers that there are. -/
def drivers : List String :=
  [defaultDriver, "unix-none", "unix-dotfile", "unix-excl", memoryDriver]

/-- The name of a database in memory. -/
def memoryName : String := ":memory:"

/-- A part of a name with its bytes decoded, up to the byte zero. -/
def decode (cs : List Char) : String :=
  String.ofList (Utf8.decodeLossy ((Percent.decode cs).takeWhile fun b => b.val ≠ 0))

/-- What stands in front of names that say more. -/
def longMark : List Char := ['f', 'i', 'l', 'e', ':']

/-- What follows the authority of a name, which may only be that of the machine
itself. -/
def afterAuthority? (cs : List Char) : Option (List Char) :=
  match cs with
  | '/' :: '/' :: rest =>
    let authority := rest.takeWhile (· ≠ '/')
    if authority.isEmpty ∨ authority = "localhost".toList then
      some (rest.drop authority.length)
    else none
  | _ => some cs

/-- The names and values of the options of a name.  One without a name does not
count. -/
def settings (cs : List Char) : List (String × String) :=
  ((Text.pieces ['&'] cs).map fun piece =>
    let (name, value) := (Text.cut? ['='] piece).getD (piece, [])
    (decode name, decode value)).filter fun setting => setting.1 ≠ ""

/-- The number at the front of a value, in decimal or, behind `0x`, in hexadecimal. -/
def leadingNumber? (cs : List Char) : Option Nat :=
  match cs with
  | '0' :: x :: rest =>
    let digits := (rest.takeWhile fun c => (Percent.value? c).isSome).filterMap Percent.value?
    if (x = 'x' ∨ x = 'X') ∧ digits ≠ [] then some (digits.foldl (fun n d => 16 * n + d) 0)
    else some (Number.ofDigits (Number.takeDigits cs).1)
  | c :: _ => if Number.isDigit c then some (Number.ofDigits (Number.takeDigits cs).1) else none
  | [] => none

/-- Whether a value means yes: a number other than zero in its last byte, or a word. -/
def isYes (value : String) : Bool :=
  match leadingNumber? value.toList with
  | some n => n ≤ 0x7FFFFFFF && n % 256 != 0
  | none => ["on", "yes", "true"].contains (Text.lower value)

/-- An opening with one more option, unless that makes no sense or wants more than is
allowed. -/
def Opening.add (o : Opening) (name value : String) : Option Opening :=
  let narrowed (a : Access) : Option Opening :=
    if o.access.allows a then some { o with access := a, inMemory := false } else none
  if name = "vfs" then some { o with driver := value }
  else if name = "cache" then if value = "shared" ∨ value = "private" then some o else none
  else if name = "mode" then
    if value = "ro" then narrowed .read
    else if value = "rw" then narrowed .write
    else if value = "rwc" then narrowed .create
    else if value = "memory" then some { o with access := .create, inMemory := true }
    else none
  else some o

/-- How a name is opened with an access, unless it makes no sense or its driver is not
there. -/
def opening? (name : String) (access : Access) (inMemory : Bool) : Option Opening := do
  let plain : Opening := ⟨name, access, inMemory, false, defaultDriver⟩
  let o ← match Text.after? longMark name.toList with
    | none => some plain
    | some rest => do
      let rest ← afterAuthority? rest
      let (path, options) := (Text.cut? ['?'] (rest.takeWhile (· ≠ '#'))).getD
        (rest.takeWhile (· ≠ '#'), [])
      let options := settings options
      let isImmutable := match options.find? fun option => option.1 == "immutable" with
        | some (_, value) => isYes value
        | none => false
      options.foldlM (fun o (name, value) => o.add name value)
        { plain with name := decode path, isImmutable }
  if drivers.contains o.driver && !name.toList.contains (Char.ofNat 0) then some o else none

/-- Whether nothing of a database is kept in a file. -/
def Opening.isVolatile (o : Opening) : Bool :=
  o.inMemory || o.name.isEmpty || o.name == memoryName || o.driver == memoryDriver

/-- Whether the database may not be written.  What is in memory from the start does not
know about files that do not change; the driver for memory does. -/
def Opening.isReadOnly (o : Opening) : Bool :=
  o.access == .read
    || (o.isImmutable && !(o.inMemory || o.name.isEmpty || o.name == memoryName))

/-! ### Limits -/

/-- How many bytes the path of any place may have on the way to a file. -/
def pathLimit : Nat := 511

/-- What the engine appends to the name of a file for its notes. -/
def noteMark : String := "-journal"

/-- Whether the path of a file leaves room for that of its notes. -/
def hasRoom (size : Nat) : Bool := size + noteMark.utf8ByteSize ≤ pathLimit + 1

/-! ### Faults -/

/-- What the engine can find wrong with a file that it has opened. -/
inductive Fault where
  | notADatabase
  | readOnly
  /-- The name of the file is too long for that of its notes. -/
  | noNotes
  /-- The file keeps nothing. -/
  | unkept
deriving DecidableEq, Repr, Inhabited

/-- The number of a fault. -/
def Fault.code : Fault → Nat
  | notADatabase => 26
  | readOnly => 8
  | noNotes => 14
  | unkept => 1034

/-- A fault in words. -/
def Fault.message : Fault → String
  | notADatabase => "file is not a database"
  | readOnly => "attempt to write a readonly database"
  | noNotes => "unable to open database file"
  | unkept => "disk I/O error"

end Engine

end ProjectViews
