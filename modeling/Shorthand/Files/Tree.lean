import Shorthand.Files.Basic
import Shorthand.Path

/-!
# `Shorthand.Files.Tree`: a tree of directories, files and links

A file system with symbolic links. A path is walked part by part: links are
followed wherever they stand, a part can only be looked up in a directory, and
after `maxLinks` links the walk gives up.
-/

set_option autoImplicit false

namespace Shorthand

/-- What stands at a place of the tree. -/
inductive FileNode where
  | directory
  | file (content : List UInt8)
  | link (target : Text)
  /-- A device that reads as empty. -/
  | device
  deriving DecidableEq, Repr

/-- A place of the tree, with its time of modification in microseconds. -/
structure FileEntry where
  /-- Parts of the path from the root. -/
  place : List Text
  node : FileNode
  modified : Int := 0
  deriving DecidableEq, Repr

/-- The places of the tree besides the root, which is always a directory. -/
structure FileTree where
  entries : List FileEntry := []

namespace FileTree

/-- Links that a walk follows. -/
def maxLinks : Nat := 40

/-- Bytes in one part of a path. -/
def maxName : Nat := 255

/-- Bytes in a path. -/
def maxPath : Nat := 4095

/-- Why a walk does not arrive. -/
inductive Fault where
  /-- A part is not there. -/
  | notFound
  /-- Something other than a missing part. -/
  | blocked
  deriving DecidableEq, Repr

/-- The entry at a place. -/
def entry? (t : FileTree) (place : List Text) : Option FileEntry :=
  if place = [] then some { place := [], node := .directory }
  else t.entries.find? fun entry => entry.place = place

/-! ### Building -/

/-- Puts an entry in the tree in the place of what stood there. -/
def put (t : FileTree) (entry : FileEntry) : FileTree :=
  { entries := t.entries.filter (fun e => e.place ≠ entry.place) ++ [entry] }

/-- Puts a directory where nothing stands. -/
def ensureDirectory (t : FileTree) (place : List Text) : FileTree :=
  match t.entry? place with
  | some _ => t
  | none => t.put { place, node := .directory }

/-- Puts directories at all places above a place. -/
def ensureParents (t : FileTree) (place : List Text) : FileTree :=
  (List.range place.length).foldl (fun t n => t.ensureDirectory (place.take n)) t

/-- Puts an entry and the directories above it. -/
def add (t : FileTree) (path : Text) (node : FileNode) : FileTree :=
  let place := Path.components path
  (t.ensureParents place).put { place, node }

/-- Removes what stands at a path. -/
def remove (t : FileTree) (path : Text) : FileTree :=
  { entries := t.entries.filter fun e => e.place ≠ Path.components path }

/-- Sets the time of modification of what stands at a path. -/
def touch (t : FileTree) (path : Text) (modified : Int) : FileTree :=
  { entries := t.entries.map fun e =>
      if e.place = Path.components path then { e with modified } else e }

/-! ### Walking -/

/-- Walks from a place through the parts of a path. `links` is the number of links
that may still be followed. -/
def walk (t : FileTree) (links : Nat) (place : List Text) (parts : List Text) :
    Except Fault FileEntry :=
  match t.entry? place with
  | none => .error .notFound
  | some here =>
    match parts with
    | [] => .ok here
    | part :: rest =>
      if here.node ≠ .directory then .error .blocked
      else if maxName < Text.utf8Size part then .error .blocked
      else if part = Path.parent then walk t links place.dropLast rest
      else
        match t.entry? (place ++ [part]) with
        | none => .error .notFound
        | some next =>
          match next.node with
          | .link target =>
            match links with
            | 0 => .error .blocked
            | links + 1 =>
              walk t links (if Path.isAbsolute target then [] else place)
                (Path.components target ++ rest)
          | _ => walk t links (place ++ [part]) rest
termination_by (links, parts.length)

/-- The entry that a path from the root names. A slash at the end asks for a
directory. -/
def find (t : FileTree) (path : Text) : Except Fault FileEntry :=
  if maxPath < Text.utf8Size path ∨ path.contains '\x00' then .error .blocked
  else
    match t.walk maxLinks [] (Path.components path) with
    | .error fault => .error fault
    | .ok entry =>
      if path.getLast? = some '/' ∧ entry.node ≠ .directory then .error .blocked
      else .ok entry

/-- Whether the last part of a path is itself a link. -/
def isLink (t : FileTree) (path : Text) : Bool :=
  let parts := Path.components path
  match t.walk maxLinks [] parts.dropLast with
  | .error _ => false
  | .ok parent =>
    match t.entry? (parent.place ++ parts.drop (parts.length - 1)) with
    | some { node := .link _, .. } => true
    | _ => false

/-! ### Answers -/

/-- What a path names. Times are rounded to milliseconds towards zero. -/
def stat (t : FileTree) (path : Text) : Option FileStat :=
  match t.find path with
  | .error .notFound => some .missing
  | .error .blocked => none
  | .ok entry =>
    let (type, size) : FileType × Nat := match entry.node with
      | .directory => (.directory, 0)
      | .file content => (.file, content.length)
      | _ => (if t.isLink path then .symbolicLink else .unknown, 0)
    some { type, size, created := 0, modified := Int.tdiv entry.modified 1000 }

/-- The bytes of a file. -/
def read (t : FileTree) (path : Text) : Option (List UInt8) :=
  match t.find path with
  | .ok { node := .file content, .. } => some content
  | .ok { node := .device, .. } => some []
  | _ => none

/-- The tree as a file system. -/
def toFiles (t : FileTree) : Files :=
  { stat := t.stat, read := t.read }

end FileTree

end Shorthand
