/-
What a place for markers holds.

Markers are kept in memory or in a database, and the two keep them differently: memory
puts a new marker in front and takes the old one out, a database changes the old one
where it stands.  None of this can be seen from outside.  `marker?` says which marker a
place holds under a name, expired or not, and reading and writing are described by what
they do to it: writing a marker puts it under its name and changes nothing else, and
reading drops the marker of the name if it has expired and changes nothing else.

This holds of places that work.  A closed database, or one that may only be read, refuses.
-/
import ProjectViews.Usage.Markers

namespace ProjectViews

/-! ### Finding the marker of a name in a list -/

private theorem find?_drop (markers : List Marker) (name other : String) :
    (markers.filter fun m => m.name != name).find? (fun m => m.name == other)
      = if other = name then none else markers.find? fun m => m.name == other := by
  rw [List.find?_filter]
  by_cases h : other = name
  · subst h
    rw [if_pos rfl, List.find?_eq_none]
    intro m _
    simp
  · rw [if_neg h]
    congr 1
    funext m
    by_cases hm : m.name = other
    · simp [hm, h]
    · simp [hm]

private theorem find?_replace (markers : List Marker) (m : Marker) (other : String) :
    (markers.map fun old => if old.name == m.name then m else old).find?
        (fun x => x.name == other)
      = (markers.find? fun x => x.name == other).map
          fun old => if old.name == m.name then m else old := by
  rw [List.find?_map]
  congr 2
  funext old
  by_cases hold : old.name = m.name
  · simp [hold]
  · simp [hold]

namespace Database

/-- The marker of a name is gone after it was cleared, and the others are still there. -/
theorem marker?_clearMarker (d : Database) (name other : String) :
    (d.clearMarker name).marker? other = if other = name then none else d.marker? other :=
  find?_drop d.markers name other

/-- A marker that was set is the one of its name, and the others are still there. -/
theorem marker?_setMarker (d : Database) (m : Marker) (other : String) :
    (d.setMarker m).marker? other = if other = m.name then some m else d.marker? other := by
  unfold setMarker
  by_cases hset : (d.marker? m.name).isSome
  · rw [if_pos hset]
    unfold marker? at hset ⊢
    rw [find?_replace]
    by_cases hother : other = m.name
    · obtain ⟨old, hold⟩ := Option.isSome_iff_exists.mp hset
      have hname : old.name = m.name := by simpa using List.find?_some hold
      simp [hother, hold, hname]
    · rw [if_neg hother]
      cases hfound : d.markers.find? fun x => x.name == other with
      | none => rfl
      | some old =>
          have hname : old.name = other := by simpa using List.find?_some hfound
          simp [hname, hother]
  · rw [if_neg hset]
    have hnone : d.markers.find? (fun x => x.name == m.name) = none := by
      rwa [marker?, Option.not_isSome_iff_eq_none] at hset
    unfold marker?
    rw [List.find?_append]
    by_cases hother : other = m.name
    · simp [hother, hnone]
    · have hne : (m.name == other) = false := by simpa using fun e => hother e.symm
      simp [hother, hne]

end Database

/-- A marker that was found, if it counts at a time. -/
def Marker.live (found : Option Marker) (now : Instant) : Option Marker :=
  found.filter fun m => !m.isExpired now

theorem Marker.live_of_expired {m : Marker} {now : Instant} (h : m.isExpired now = true) :
    Marker.live (some m) now = none := by
  simp [live, h]

theorem Marker.live_of_not_expired {m : Marker} {now : Instant} (h : m.isExpired now = false) :
    Marker.live (some m) now = some m := by
  simp [live, h]

/-- Where nothing is dropped, everything is as it was. -/
private theorem held_of_live_eq {held : String → Option Marker} {name : String} {now : Instant}
    (h : Marker.live (held name) now = held name) (other : String) :
    held other = if other = name then Marker.live (held name) now else held other := by
  by_cases hother : other = name
  · rw [if_pos hother, h, hother]
  · rw [if_neg hother]

namespace MemoryMarkers

/-- The marker of a name, expired or not. -/
def marker? (s : MemoryMarkers) (name : String) : Option Marker :=
  s.markers.find? fun m => m.name == name

theorem marker?_erase (s : MemoryMarkers) (name other : String) :
    (s.erase name).marker? other = if other = name then none else s.marker? other :=
  find?_drop s.markers name other

theorem marker?_insert (s : MemoryMarkers) (m : Marker) (other : String) :
    (s.insert m).marker? other = if other = m.name then some m else s.marker? other := by
  have hinsert : (s.insert m).marker? other
      = if m.name == other then some m else (s.erase m.name).marker? other := by
    rw [insert, marker?, List.find?_cons]
    cases m.name == other <;> rfl
  rw [hinsert, marker?_erase]
  by_cases hother : other = m.name
  · simp [hother]
  · have hne : (m.name == other) = false := by simpa using fun e => hother e.symm
    simp [hother, hne]

/-- Reading finds a marker that counts, and drops one that has expired. -/
theorem read_spec (s : MemoryMarkers) (name : String) (now : Instant) :
    (s.read name now).1 = (Marker.live (s.marker? name) now).map (·.value) ∧
      ∀ other, (s.read name now).2.marker? other
        = if other = name then Marker.live (s.marker? name) now else s.marker? other := by
  cases hfound : s.marker? name with
  | none =>
      have hread : s.read name now = (none, s) := by
        rw [marker?] at hfound
        rw [read, hfound]
      rw [hread, ← hfound]
      exact ⟨by rw [hfound]; rfl, held_of_live_eq (by rw [hfound]; rfl)⟩
  | some m =>
      cases hexpired : m.isExpired now with
      | false =>
          have hread : s.read name now = (some m.value, s) := by
            rw [marker?] at hfound
            simp [read, hfound, hexpired]
          have hlive := Marker.live_of_not_expired hexpired
          rw [hread, ← hfound]
          exact ⟨by rw [hfound, hlive]; rfl, held_of_live_eq (by rw [hfound, hlive])⟩
      | true =>
          have hread : s.read name now = (none, s.erase name) := by
            rw [marker?] at hfound
            simp [read, hfound, hexpired]
          rw [hread, Marker.live_of_expired hexpired]
          exact ⟨rfl, s.marker?_erase name⟩

end MemoryMarkers

namespace Connection

variable {c : Connection}

theorem look_of_open (isOpen : c.isOpen = true) {α : Type} (error : StorageError)
    (act : Database → α) : c.look error act = (c, .ok (act c.tables)) := by
  rw [look, if_pos isOpen]

theorem change_of_open (isOpen : c.isOpen = true) (writable : c.isReadOnly = false)
    (error : StorageError) (act : Database → Database) :
    c.change error act = ({ c with tables := act c.tables }, .ok ()) := by
  rw [change, if_pos (by simp [isOpen, writable])]

/-- Reading finds a marker that counts, and drops one that has expired. -/
theorem marker_spec (isOpen : c.isOpen = true) (writable : c.isReadOnly = false) (name : String)
    (now : Instant) : ∃ tables : Database,
      c.marker name now
        = ({ c with tables := tables }, .ok (Marker.live (c.tables.marker? name) now)) ∧
      ∀ other, tables.marker? other
        = if other = name then Marker.live (c.tables.marker? name) now
          else c.tables.marker? other := by
  cases hfound : c.tables.marker? name with
  | none =>
      refine ⟨c.tables, ?_, ?_⟩
      · rw [marker, look_of_open isOpen, hfound]
        rfl
      · rw [← hfound]
        exact held_of_live_eq (by rw [hfound]; rfl)
  | some m =>
      cases hexpired : m.isExpired now with
      | false =>
          have hlive := Marker.live_of_not_expired hexpired
          refine ⟨c.tables, ?_, ?_⟩
          · rw [marker, look_of_open isOpen, hfound, hlive]
            simp [hexpired]
          · rw [← hfound]
            exact held_of_live_eq (by rw [hfound, hlive])
      | true =>
          refine ⟨c.tables.clearMarker name, ?_, ?_⟩
          · rw [marker, look_of_open isOpen, hfound, Marker.live_of_expired hexpired]
            simp [hexpired, clearMarker, change_of_open isOpen writable, Except.map]
          · rw [Marker.live_of_expired hexpired]
            exact c.tables.marker?_clearMarker name

end Connection

/-! ### Places that work -/

/-- The marker of a name that a place holds, expired or not. -/
def MarkerPlace.marker? : MarkerPlace → String → Option Marker
  | memory markers, name => markers.marker? name
  | database c, name => c.tables.marker? name

/-- The place takes what it is given: a database has to be open and to allow changes. -/
def MarkerPlace.Works : MarkerPlace → Prop
  | memory _ => True
  | database c => c.isOpen = true ∧ c.isReadOnly = false

namespace MarkerStore

/-- The marker of a name that is kept, expired or not. -/
def marker? (s : MarkerStore) (name : String) : Option Marker := s.place.marker? name

/-- Markers can be read and written. -/
structure Works (s : MarkerStore) : Prop where
  reads : s.failsToRead = false
  writes : s.failsToWrite = false
  place : s.place.Works

theorem works_inMemory : inMemory.Works := ⟨rfl, rfl, trivial⟩

/-- What reading a marker comes to where markers can be read: one that counts is found, and one
that has expired is dropped. -/
structure Reads (s : MarkerStore) (name : String) (now : Instant)
    (t : MarkerStore × Except MarkerError (Option String)) : Prop where
  works : t.1.Works
  found : t.2 = .ok ((Marker.live (s.marker? name) now).map (·.value))
  held : ∀ other, t.1.marker? other
    = if other = name then Marker.live (s.marker? name) now else s.marker? other

/-- What writing a marker comes to where markers can be written. -/
structure Writes (s : MarkerStore) (m : Marker) (t : MarkerStore × Except MarkerError Unit) :
    Prop where
  works : t.1.Works
  done : t.2 = .ok ()
  held : ∀ other, t.1.marker? other = if other = m.name then some m else s.marker? other

/-- **Reading a marker where markers can be read.** -/
theorem reads_of_works {s : MarkerStore} (h : s.Works) (name : String) (now : Instant) :
    Reads s name now (s.read name now) := by
  obtain ⟨place, failsToRead, failsToWrite⟩ := s
  obtain rfl : failsToRead = false := h.reads
  have hplace := h.place
  rw [read, if_neg (by simp)]
  cases place with
  | memory markers =>
      obtain ⟨hvalue, hheld⟩ := markers.read_spec name now
      exact ⟨⟨rfl, h.writes, trivial⟩, congrArg Except.ok hvalue, hheld⟩
  | database c =>
      obtain ⟨tables, hread, hheld⟩ := Connection.marker_spec hplace.1 hplace.2 name now
      dsimp only
      rw [hread]
      exact ⟨⟨rfl, h.writes, hplace⟩, rfl, hheld⟩

/-- **Writing a marker where markers can be written.** -/
theorem writes_of_works {s : MarkerStore} (h : s.Works) (m : Marker) : Writes s m (s.write m) := by
  obtain ⟨place, failsToRead, failsToWrite⟩ := s
  obtain rfl : failsToWrite = false := h.writes
  have hplace := h.place
  rw [write, if_neg (by simp)]
  cases place with
  | memory markers => exact ⟨⟨h.reads, rfl, trivial⟩, rfl, markers.marker?_insert m⟩
  | database c =>
      dsimp only
      rw [Connection.setMarker, Connection.change_of_open hplace.1 hplace.2]
      exact ⟨⟨h.reads, rfl, hplace⟩, rfl, c.tables.marker?_setMarker m⟩

end MarkerStore

end ProjectViews
