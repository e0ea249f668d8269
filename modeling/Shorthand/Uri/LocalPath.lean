import Shorthand.Uri.Segments

/-!
# `Shorthand.Uri.LocalPath`: the files that identifiers name

A `file` identifier without host names a file of this machine, by its path with the
escapes undone.
-/

set_option autoImplicit false

namespace Shorthand

namespace Uri

/-- Why an identifier names no file here. -/
inductive Fault where
  /-- The scheme is not `file`. -/
  | unsupportedScheme (scheme : Text)
  /-- The file is on another host. -/
  | notLocal (uri : Text)
  deriving DecidableEq, Repr

/-- The path that an identifier names. A drive at its end gets a slash. -/
def localPath (u : Uri) : Except Fault Text :=
  if u.scheme ≠ "file".toList then .error (.unsupportedScheme u.scheme)
  else if (u.authority.getD {}).host ≠ .absent then .error (.notLocal u.toText)
  else
    let path := Text.ofUtf8Lossy (unescape u.path.toText)
    let ending := path.drop (path.length - 2)
    .ok (if 2 < path.length ∧ isDrive ending then path ++ ['/'] else path)

end Uri

end Shorthand
