/-
Connections to a database.

Opening makes the folder that the database file needs, and the file itself.  A
connection keeps the tables until it is closed; then the file holds them.  A closed
connection refuses everything, and one that may only be read refuses to change
anything.  What goes wrong is told in words of this program, and where it has none in
those of the database engine.
-/
import ProjectViews.Storage.Address
import ProjectViews.Storage.Disk

namespace ProjectViews

/-- What can go wrong with a database. -/
inductive StorageError where
  | parentFolder (parent address : String)
  /-- The address makes no sense. -/
  | configuration (problem : Address.Problem)
  | opening (address : String)
  | engine (fault : Engine.Fault)
  | closed
  | ping
  | readMarker (name : String)
  | writeMarker (name : String)
  | clearMarker (name : String)
  | readSettings (view : String)
  | saveSettings (view : String)
deriving DecidableEq, Repr, Inhabited

/-- An error in the words of this program, where it has any. -/
def StorageError.message? : StorageError → Option String
  | parentFolder parent address =>
    some ("failed to create parent directory '" ++ parent ++ "' for database url '"
      ++ address ++ "'")
  | configuration _ | engine _ | closed => none
  | opening address => some ("failed to open sqlite database '" ++ address ++ "'")
  | ping => some "sqlite ping failed"
  | readMarker name => some ("failed to read marker '" ++ name ++ "'")
  | writeMarker name => some ("failed to write marker '" ++ name ++ "'")
  | clearMarker name => some ("failed to clear marker '" ++ name ++ "'")
  | readSettings view => some ("failed to read settings for view '" ++ view ++ "'")
  | saveSettings view => some ("failed to save settings for view '" ++ view ++ "'")

/-- An error in words: those of this program, or else those of the database engine. -/
def StorageError.display (e : StorageError) : String :=
  match e with
  | configuration problem => "error with configuration: " ++ problem.message
  | engine fault =>
    "while executing migrations: error returned from database: (code: "
      ++ Number.write fault.code ++ ") " ++ fault.message
  | closed => "attempted to acquire a connection on a closed pool"
  | e => e.message?.getD ""

/-- A connection to a database. -/
structure Connection where
  address : String
  /-- The place of the file, unless the database is kept in memory. -/
  file : Option (List String)
  isReadOnly : Bool
  tables : Database
  isOpen : Bool
deriving Repr, Inhabited

namespace Connection

/-- A new database in memory, opened by an address. -/
def volatile (address : String) : Connection := ⟨address, none, false, .empty, true⟩

/-- A new database in memory. -/
def inMemory : Connection := volatile Address.memory

/-- Begins a database in a file that holds none, if that may be written. -/
def begin (disk : Disk) (address : String) (place : List String) (isReadOnly : Bool) :
    Disk × Except StorageError Connection :=
  let notes := place.getLast?.getD "" ++ Engine.noteMark
  if isReadOnly then (disk, .error (.engine .readOnly))
  else if !FileTree.fits notes then (disk, .error (.engine .noNotes))
  else
    (disk.put place (.file (.database .empty)), .ok ⟨address, some place, false, .empty, true⟩)

/-- Opens the file at a place. -/
def openPlace (disk : Disk) (address : String) (o : Engine.Opening) (place : List String) :
    Disk × Except StorageError Connection :=
  let refused := (disk, .error (.opening address))
  match disk.at? place.dropLast, disk.at? place with
  | _, some (.file (.database tables)) =>
    (disk, .ok ⟨address, some place, o.isReadOnly, tables, true⟩)
  | _, some (.file (.text s)) =>
    if Contents.isBlank s then begin disk address place o.isReadOnly
    else (disk, .error (.engine .notADatabase))
  | _, some .device => (disk, .error (.engine (if o.isReadOnly then .readOnly else .unkept)))
  | _, some .folder | _, some .sealedFolder => refused
  | some .folder, none =>
    if o.access = .create then
      begin (disk.put place (.file .empty)) address place o.isReadOnly
    else refused
  | _, none => refused

/-- Opens what the engine was told to open. -/
def openWith (disk : Disk) (address : String) (o : Engine.Opening) :
    Disk × Except StorageError Connection :=
  let refused := (disk, .error (.opening address))
  if o.isVolatile then
    if o.isReadOnly then (disk, .error (.engine .readOnly))
    else (disk, .ok (volatile address))
  else
    match disk.named? Engine.pathLimit o.name with
    | none | some [] => refused
    | some place =>
      if Engine.hasRoom (FileTree.pathSize place) then openPlace disk address o place
      else refused

/-- Opens the database of an address. -/
def openAt (disk : Disk) (address : String) : Disk × Except StorageError Connection :=
  let parent := Address.neededFolder? address
  let (disk, isMade) := match parent with
    | none => (disk, true)
    | some parent => disk.make parent
  if !isMade then (disk, .error (.parentFolder (parent.getD "") address))
  else
    match Address.options address with
    | .error problem => (disk, .error (.configuration problem))
    | .ok options =>
      match options.opening? with
      | none => (disk, .error (.opening address))
      | some o => openWith disk address o

/-- Closes a connection; its file then holds its tables. -/
def close (c : Connection) (disk : Disk) : Disk × Connection :=
  (match c.file with
    | some place => disk.put place (.file (.database c.tables))
    | none => disk,
   { c with isOpen := false })

/-- Looks at the tables of an open connection. -/
def look {α : Type} (c : Connection) (error : StorageError) (act : Database → α) :
    Connection × Except StorageError α :=
  (c, if c.isOpen then .ok (act c.tables) else .error error)

/-- Changes the tables of an open connection that may be written. -/
def change (c : Connection) (error : StorageError) (act : Database → Database) :
    Connection × Except StorageError Unit :=
  if c.isOpen && !c.isReadOnly then ({ c with tables := act c.tables }, .ok ())
  else (c, .error error)

/-- Whether the database answers. -/
def healthCheck (c : Connection) : Connection × Except StorageError Unit :=
  c.look .ping fun _ => ()

/-- Writes a marker. -/
def setMarker (c : Connection) (m : Marker) : Connection × Except StorageError Unit :=
  c.change (.writeMarker m.name) fun d => d.setMarker m

/-- Deletes the marker of a name. -/
def clearMarker (c : Connection) (name : String) : Connection × Except StorageError Unit :=
  c.change (.clearMarker name) fun d => d.clearMarker name

/-- The marker of a name that counts at a time.  An expired one is deleted. -/
def marker (c : Connection) (name : String) (now : Instant) :
    Connection × Except StorageError (Option Marker) :=
  match c.look (.readMarker name) fun d => d.marker? name with
  | (c, .ok (some m)) =>
    if m.isExpired now then
      let (c, done) := c.clearMarker name
      (c, done.map fun _ => none)
    else (c, .ok (some m))
  | (c, found) => (c, found)

/-- Deletes the expired ones of some markers, and says how many they were. -/
def purgeAll (now : Instant) : List Marker → Connection → Connection × Except StorageError Nat
  | [], c => (c, .ok 0)
  | m :: rest, c =>
    if m.isExpired now then
      match c.clearMarker m.name with
      | (c, .ok ()) =>
        let (c, n) := purgeAll now rest c
        (c, n.map (· + 1))
      | (c, .error e) => (c, .error e)
    else purgeAll now rest c

/-- Deletes every marker that has expired at a time, and says how many they were. -/
def purge (c : Connection) (now : Instant) : Connection × Except StorageError Nat :=
  match c.look .closed fun d => d.markers with
  | (c, .ok markers) => purgeAll now markers c
  | (c, .error e) => (c, .error e)

/-- The settings text of a view. -/
def viewSettings (c : Connection) (view : String) :
    Connection × Except StorageError (Option String) :=
  c.look (.readSettings view) fun d => d.settings? view

/-- Saves the settings text of a view. -/
def saveViewSettings (c : Connection) (view text : String) :
    Connection × Except StorageError Unit :=
  c.change (.saveSettings view) fun d => d.saveSettings view text

/-- Deletes the settings text of a view. -/
def clearViewSettings (c : Connection) (view : String) :
    Connection × Except StorageError Unit :=
  c.change .closed fun d => d.clearSettings view

end Connection

end ProjectViews
