/-
The command line.

The files of a run are read before it and written back after it: the configuration
file and the file of the database, which is kept as text.  Requests travel over plain
connections.
-/
import ProjectViews.Command.Program
import ProjectViews.Server.Message
import ProjectViews.Storage.Archive
import Std.Async.DNS
import Std.Async.TCP
import Std.Time.DateTime.Timestamp

open ProjectViews

namespace CommandLine

/-! ### Requests -/

/-- Reads what a server sends, up to its end. -/
partial def receive (socket : Std.Async.TCP.Socket.Client) (found : ByteArray) : IO ByteArray := do
  match ← (socket.recv? 65536).block with
  | some bytes => receive socket (found ++ bytes)
  | none => pure found

/-- Sends a request to one address of its host, and reads what comes back. -/
def exchange (request : Request) (address : Std.Net.IPAddr) : IO ByteArray := do
  let port := request.port.toUInt16
  let socket ← Std.Async.TCP.Socket.Client.mk
  (socket.connect (match address with
    | .v4 a => .v4 ⟨a, port⟩
    | .v6 a => .v6 ⟨a, port⟩)).block
  (socket.send request.message.toUTF8).block
  receive socket ByteArray.empty

/-- What becomes of a request. -/
def network : Network IO := fun request => do
  if request.url.scheme == "https" then
    return .error "no secure connection can be made"
  try
    let addresses ← (Std.Async.DNS.getAddrInfo request.host (toString request.port)).block
    match addresses[0]? with
    | none => pure (.error "the host is not known")
    | some address =>
      let bytes ← exchange request address
      match Response.ofMessage? (bytes.toList.map fun b => Utf8.byte b.toNat) with
      | some response => pure (.ok response)
      | none => pure (.error "the answer is no response")
  catch e => pure (.error (toString e))

/-! ### Files -/

/-- The variables that the program knows. -/
def variableNames : List String :=
  ["KPI_URL", "APP__SERVER_URL", "DATABASE_URL", "APP__DATABASE_URL", "APP__PAGE_SIZE",
   "APP__BILLING_ENABLED", "APP__ORGANIZATION_ID"]

/-- The values of the variables that are set. -/
def environment : IO (String → Option String) := do
  let mut found : List (String × String) := []
  for name in variableNames do
    if let some value ← IO.getEnv name then
      found := (name, value) :: found
  let all := found
  pure fun name => Json.lookup? name all

/-- The path of a place. -/
def pathOf (place : List String) : String := "/" ++ Text.join "/" place

/-- The working folder and nothing else of the machine. -/
def home : IO Disk := do
  let path := (← IO.currentDir).toString
  pure (Disk.fresh ((Text.split "/" path).filter fun name => name ≠ ""))

/-- Takes a file of the machine, if it is there. -/
def take (disk : Disk) (path : String) (contents : String → Contents) : IO Disk := do
  match disk.named? FileTree.pathLimit path with
  | none => pure disk
  | some place =>
    try
      let text ← IO.FS.readFile (pathOf place)
      pure ((disk.putFolders [] place.dropLast).put place (.file (contents text)))
    catch _ => pure disk

/-- The file of the database of a run. -/
def databaseFile? (c : Config) : Option String :=
  match Address.options (Address.normalize c.databaseUrl) with
  | .ok options => options.opening?.map (·.name)
  | .error _ => none

/-- Takes the files of a run. -/
def load (env : String → Option String) (arguments : List String) : IO Disk := do
  match Arguments.parse arguments with
  | none => home
  | some a =>
    let disk ← take (← home) a.configFile Contents.text
    match databaseFile? (Program.configure env disk a) with
    | some path => take disk path Contents.ofArchive
    | none => pure disk

/-- Writes the databases of a run back to their files. -/
def save (disk : Disk) : IO Unit := do
  for (place, entry) in disk.entries do
    if let .file (.database tables) := entry then
      IO.FS.createDirAll (pathOf place.dropLast)
      IO.FS.writeFile (pathOf place) tables.print

/-- The present time. -/
def now : IO Instant := do
  let time ← Std.Time.Timestamp.now
  pure (Instant.ofSeconds time.toSecondsSinceUnixEpoch.val)

end CommandLine

open CommandLine in
/-- Runs the program. -/
def main (arguments : List String) : IO UInt32 := do
  let env ← environment
  let disk ← load env arguments
  let (disk, outcome) ← Program.run network env (← now) disk arguments
  save disk
  IO.print outcome.output
  IO.eprint outcome.errors
  pure outcome.exitCode.toUInt32
