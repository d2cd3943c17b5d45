/-
The database: markers and view settings.

A marker is a named value that counts until it expires.  There is at most one marker
of a name and at most one settings text of a view; writing replaces what was there.
-/
import ProjectViews.Time.Instant

namespace ProjectViews

/-- A named value that counts until it expires. -/
structure Marker where
  name : String
  value : String
  expiresAt : Instant
deriving DecidableEq, Repr, Inhabited

/-- Whether a marker has expired at a time. -/
def Marker.isExpired (m : Marker) (now : Instant) : Bool := m.expiresAt.le now

/-- The tables of a database. -/
structure Database where
  markers : List Marker
  settings : List (String × String)
deriving DecidableEq, Repr, Inhabited

namespace Database

/-- A database with empty tables. -/
def empty : Database := ⟨[], []⟩

/-- The marker of a name, expired or not. -/
def marker? (d : Database) (name : String) : Option Marker :=
  d.markers.find? fun m => m.name == name

/-- The database without the marker of a name. -/
def clearMarker (d : Database) (name : String) : Database :=
  { d with markers := d.markers.filter fun m => m.name != name }

/-- The database with a marker, in place of the one of the same name. -/
def setMarker (d : Database) (m : Marker) : Database :=
  if (d.marker? m.name).isSome then
    { d with markers := d.markers.map fun old => if old.name == m.name then m else old }
  else { d with markers := d.markers ++ [m] }

/-- The settings text of a view. -/
def settings? (d : Database) (view : String) : Option String :=
  (d.settings.find? fun s => s.1 == view).map (·.2)

/-- The database without the settings text of a view. -/
def clearSettings (d : Database) (view : String) : Database :=
  { d with settings := d.settings.filter fun s => s.1 != view }

/-- The database with a settings text, in place of the one of the same view. -/
def saveSettings (d : Database) (view text : String) : Database :=
  if (d.settings? view).isSome then
    { d with
      settings := d.settings.map fun old => if old.1 == view then (view, text) else old }
  else { d with settings := d.settings ++ [(view, text)] }

private theorem find?_settings_map (view other text : String)
    (settings : List (String × String)) :
    (settings.map fun old => if old.1 == view then (view, text) else old).find?
        (fun s => s.1 == other)
      = (settings.find? fun s => s.1 == other).map
          fun old => if old.1 == view then (view, text) else old := by
  rw [List.find?_map]
  congr 2
  funext old
  by_cases hold : old.1 = view
  · simp [hold]
  · simp [hold]

/-- The text that was saved for a view is the one of that view. -/
theorem settings?_saveSettings_self (d : Database) (view text : String) :
    (d.saveSettings view text).settings? view = some text := by
  unfold saveSettings
  by_cases h : (d.settings? view).isSome
  · rw [if_pos h]
    unfold settings? at h ⊢
    rw [find?_settings_map]
    cases hfound : d.settings.find? fun s => s.1 == view with
    | none => simp [hfound] at h
    | some old =>
        have hold : old.1 = view := by simpa using List.find?_some hfound
        simp [hold]
  · rw [if_neg h]
    have hnone : d.settings.find? (fun s => s.1 == view) = none := by
      rwa [settings?, Option.isSome_map, Option.not_isSome_iff_eq_none] at h
    simp [settings?, List.find?_append, hnone]

/-- The texts of other views are still there. -/
theorem settings?_saveSettings_of_ne (d : Database) {view other : String} (h : other ≠ view)
    (text : String) : (d.saveSettings view text).settings? other = d.settings? other := by
  unfold saveSettings
  by_cases hs : (d.settings? view).isSome
  · rw [if_pos hs]
    unfold settings?
    rw [find?_settings_map]
    cases hfound : d.settings.find? fun s => s.1 == other with
    | none => rfl
    | some old =>
        have hold : old.1 = other := by simpa using List.find?_some hfound
        simp [hold, h]
  · rw [if_neg hs]
    have hne : (view == other) = false := by simpa using fun e => h e.symm
    simp [settings?, List.find?_append, hne]

end Database

end ProjectViews
