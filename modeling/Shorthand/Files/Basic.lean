import Shorthand.Text.Basic

/-!
# `Shorthand.Files.Basic`: access to files

What the library asks of a file system: what a path names, and the bytes of a
file. A path that names nothing is an answer and not an error, so that optional
files can be looked for.
-/

set_option autoImplicit false

namespace Shorthand

/-- What a path names. -/
inductive FileType where
  /-- Nothing, or neither a file nor a directory. -/
  | unknown
  | file
  | directory
  /-- A link to what is neither a file nor a directory. -/
  | symbolicLink
  deriving DecidableEq, Repr

/-- What is known of a path. Times are milliseconds from 1970 on. -/
structure FileStat where
  type : FileType
  created : Int
  modified : Int
  size : Int
  deriving DecidableEq, Repr

namespace FileStat

/-- A path that names nothing. -/
def missing : FileStat :=
  { type := .unknown, created := -1, modified := -1, size := -1 }

end FileStat

/-- Answers about paths. An error is one of reading or searching, and says no more
than the path. -/
structure Files where
  stat : Text → Option FileStat
  read : Text → Option (List UInt8)

end Shorthand
