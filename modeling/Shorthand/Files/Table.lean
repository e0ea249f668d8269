import Shorthand.Files.Basic
import Shorthand.Path

/-!
# `Shorthand.Files.Table`: files listed one by one

A file system given by lists: its directories, its files, and the paths that cannot
be searched. Paths are equal when their components are.
-/

set_option autoImplicit false

namespace Shorthand

/-- Directories, files and faults by path. A file without content cannot be read. -/
structure FileTable where
  directories : List Text := []
  files : List (Text × Option (List UInt8)) := []
  faults : List Text := []
  deriving DecidableEq, Repr

namespace FileTable

/-- Whether two paths have the same components. -/
def samePath (p q : Text) : Bool :=
  Path.isAbsolute p == Path.isAbsolute q && Path.components p == Path.components q

/-- The entry of a path: the last one that was listed. -/
def file? (t : FileTable) (path : Text) : Option (Option (List UInt8)) :=
  (t.files.reverse.find? fun entry => samePath entry.1 path).map Prod.snd

/-- What a path names. -/
def stat (t : FileTable) (path : Text) : Option FileStat :=
  if t.faults.any (samePath · path) then none
  else if t.directories.any (samePath · path) then
    some { type := .directory, created := 0, modified := 0, size := 0 }
  else
    match t.file? path with
    | some content =>
      some { type := .file, created := 0, modified := 0, size := (content.getD []).length }
    | none => some .missing

/-- The bytes of a file. -/
def read (t : FileTable) (path : Text) : Option (List UInt8) :=
  (t.file? path).bind id

/-- The table as a file system. -/
def toFiles (t : FileTable) : Files :=
  { stat := t.stat, read := t.read }

/-- The entries of both tables, those of the second over those of the first. -/
def append (t u : FileTable) : FileTable :=
  { directories := t.directories ++ u.directories
    files := t.files ++ u.files
    faults := t.faults ++ u.faults }

end FileTable

end Shorthand
