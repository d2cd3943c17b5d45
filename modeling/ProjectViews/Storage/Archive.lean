/-
Archives: a database as JSON text.
-/
import ProjectViews.Storage.Connection
import ProjectViews.Usage.Report

namespace ProjectViews

/-- A marker as JSON. -/
def Marker.toTree (m : Marker) : Json.Tree :=
  .record
    [("name", .text m.name), ("value", .text m.value), ("expires_at", m.expiresAt.toTree)]

/-- Reading a marker from JSON. -/
def Marker.ofTree? (t : Json.Tree) : Option Marker := do
  let f ← Json.fields? ["name", "value", "expires_at"] t
  let name ← Json.required Json.string? (f "name")
  let value ← Json.required Json.string? (f "value")
  let expiresAt ← Json.required Instant.ofTree? (f "expires_at")
  pure ⟨name, value, expiresAt⟩

namespace Database

/-- A database as JSON. -/
def toTree (d : Database) : Json.Tree :=
  .record
    [("markers", .array (d.markers.map Marker.toTree)),
     ("settings", Json.ofStrings d.settings)]

/-- Reading a database from JSON. -/
def ofTree? (t : Json.Tree) : Option Database := do
  let f ← Json.fields? ["markers", "settings"] t
  let markers ← Json.required (Json.list? Marker.ofTree?) (f "markers")
  let settings ← Json.required Json.strings? (f "settings")
  pure ⟨markers, settings⟩

/-- A database as text. -/
def print (d : Database) : String := d.toTree.print

/-- Reading a database from text. -/
def parse (text : String) : Option Database := (Json.Tree.parse text).bind ofTree?

end Database

/-- What a file holds that holds a text: a database, if the text is one. -/
def Contents.ofArchive (s : String) : Contents :=
  match Database.parse s with
  | some tables => database tables
  | none => text s

end ProjectViews
