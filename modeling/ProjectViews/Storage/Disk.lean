/-
Disks: file trees whose files hold texts and databases.

A text of at most one byte is as good as nothing to a database: where a database is
looked for, it counts as one that has not been begun.
-/
import ProjectViews.Storage.Database
import ProjectViews.Storage.FileTree

namespace ProjectViews

/-- What a file holds. -/
inductive Contents where
  | text (s : String)
  | database (tables : Database)
deriving Repr, Inhabited

namespace Contents

/-- What a file holds that holds nothing. -/
def empty : Contents := text ""

/-- Whether a text is no more than a database not yet begun. -/
def isBlank (s : String) : Bool := s.utf8ByteSize ≤ 1

/-- The text that a file holds. -/
def text? : Contents → Option String
  | text s => some s
  | database _ => none

end Contents

/-- A file tree with texts and databases in it. -/
abbrev Disk := FileTree Contents

namespace Disk

/-- Places that a machine has before anything is put there. -/
def furniture : List (List String × Entry Contents) :=
  (["bin", "boot", "dev", "etc", "home", "lib", "media", "mnt", "opt", "root", "run", "sbin",
      "srv", "tmp", "usr", "var"].map fun name => ([name], .folder))
    ++ (["proc", "sys"].map fun name => ([name], .sealedFolder))
    ++ ["full", "null", "random", "urandom", "zero"].map fun name => (["dev", name], .device)

/-- A machine with its furniture and an empty working folder. -/
def fresh (home : List String) : Disk :=
  FileTree.putFolders ⟨home, furniture⟩ [] home

/-- The text of the file at a path. -/
def readText? (disk : Disk) (path : String) : Option String := do
  match disk.at? (← disk.follow? path) with
  | some (.file contents) => contents.text?
  | _ => none

end Disk

end ProjectViews
