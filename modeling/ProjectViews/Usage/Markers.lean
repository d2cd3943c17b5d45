/-
Markers kept for a session or for good.

Whether something was already said today is remembered by a marker that expires.
Markers are kept in memory, for as long as the program runs, or in a database.  In
both places a marker that is found to have expired is deleted on sight.  Reading and
writing can fail.
-/
import ProjectViews.Storage.Connection

namespace ProjectViews

/-- Markers in memory, at most one of each name. -/
structure MemoryMarkers where
  markers : List Marker
deriving DecidableEq, Repr, Inhabited

namespace MemoryMarkers

/-- No markers. -/
def empty : MemoryMarkers := ⟨[]⟩

/-- The markers without the one of a name. -/
def erase (s : MemoryMarkers) (name : String) : MemoryMarkers :=
  ⟨s.markers.filter fun m => m.name != name⟩

/-- The markers with one more, which takes the place of one of the same name. -/
def insert (s : MemoryMarkers) (m : Marker) : MemoryMarkers := ⟨m :: (s.erase m.name).markers⟩

/-- The value of a marker that counts at a time.  An expired one is deleted. -/
def read (s : MemoryMarkers) (name : String) (now : Instant) : Option String × MemoryMarkers :=
  match s.markers.find? fun m => m.name == name with
  | some m => if m.isExpired now then (none, s.erase name) else (some m.value, s)
  | none => (none, s)

end MemoryMarkers

/-- Why a marker could not be read or written. -/
inductive MarkerError where
  | unavailable
  | storage (error : StorageError)
deriving DecidableEq, Repr, Inhabited

/-- An error in words, where there are any. -/
def MarkerError.message? : MarkerError → Option String
  | unavailable => some "disk unavailable"
  | storage error => error.message?

/-- Where markers are kept. -/
inductive MarkerPlace where
  | memory (markers : MemoryMarkers)
  | database (connection : Connection)
deriving Repr, Inhabited

/-- A place for markers, of which reading or writing may be out of order. -/
structure MarkerStore where
  place : MarkerPlace
  failsToRead : Bool
  failsToWrite : Bool
deriving Repr, Inhabited

namespace MarkerStore

/-- A place in memory that works. -/
def inMemory : MarkerStore := ⟨.memory .empty, false, false⟩

/-- A place in a database that works. -/
def inDatabase (c : Connection) : MarkerStore := ⟨.database c, false, false⟩

/-- The value of a marker that counts at a time. -/
def read (s : MarkerStore) (name : String) (now : Instant) :
    MarkerStore × Except MarkerError (Option String) :=
  if s.failsToRead then (s, .error .unavailable)
  else
    match s.place with
    | .memory markers =>
      let (value, markers) := markers.read name now
      ({ s with place := .memory markers }, .ok value)
    | .database c =>
      match c.marker name now with
      | (c, .ok m) => ({ s with place := .database c }, .ok (m.map (·.value)))
      | (c, .error e) => ({ s with place := .database c }, .error (.storage e))

/-- Writes a marker. -/
def write (s : MarkerStore) (m : Marker) : MarkerStore × Except MarkerError Unit :=
  if s.failsToWrite then (s, .error .unavailable)
  else
    match s.place with
    | .memory markers => ({ s with place := .memory (markers.insert m) }, .ok ())
    | .database c =>
      match c.setMarker m with
      | (c, .ok ()) => ({ s with place := .database c }, .ok ())
      | (c, .error e) => ({ s with place := .database c }, .error (.storage e))

end MarkerStore

end ProjectViews
