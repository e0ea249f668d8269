import Shorthand.Uri.Basic

/-!
# `Shorthand.Uri.Segments`: paths in normal form

A path is cut into segments at its slashes. A dot names the place itself and two dots
the place above, except above the root and above a drive, which stay. What is left is
escaped.
-/

set_option autoImplicit false

namespace Shorthand

namespace Uri

/-- A dot segment, in any spelling of the dot. -/
def isSingleDot (segment : Text) : Bool :=
  Text.oneOf [".", "%2e"] (Text.toLower segment)

/-- A double dot segment, in any spelling of the dots. -/
def isDoubleDot (segment : Text) : Bool :=
  Text.oneOf ["..", ".%2e", "%2e.", "%2e%2e"] (Text.toLower segment)

/-- A drive: a letter and a colon or bar. -/
def isDrive : Text → Bool
  | [letter, mark] => letter.isAlpha && (mark == ':' || mark == '|')
  | _ => false

/-- Takes back the last segment. `done` holds the segments so far, the last one first.
A drive stays. -/
def dropSegment : List Text → List Text
  | [] => []
  | last :: before => if isDrive last then last :: before else before

/-- Adds a segment. A drive at the start of a file's path is written with a colon. -/
def addSegment (file : Bool) (done : List Text) (segment : Text) : List Text :=
  if file && done.isEmpty && isDrive segment then [segment.take 1 ++ [':']]
  else escape pathSpecial segment :: done

/-- Folds dot segments. A dot segment at the end leaves an empty segment. -/
def foldSegments (file : Bool) (done : List Text) : List Text → List Text
  | [] => done.reverse
  | segment :: rest =>
    let ending : List Text → List Text := fun done => if rest.isEmpty then [] :: done else done
    if isDoubleDot segment then foldSegments file (ending (dropSegment done)) rest
    else if isSingleDot segment then foldSegments file (ending done) rest
    else foldSegments file (addSegment file done segment) rest

/-- Ends a path. -/
def endsPath (c : Char) : Bool :=
  c == '?' || c == '#'

/-- Reads a path from behind its first slash: the segments, folded, and what follows the
path. A backslash divides where `backslash` says so. -/
def readSegments (file backslash : Bool) (s : Text) : List Text × Text :=
  let path := s.takeWhile (!endsPath ·)
  let path := if backslash then path.map fun c => if c = '\\' then '/' else c else path
  (foldSegments file [] (Text.split '/' path), s.dropWhile (!endsPath ·))

/-- The path of a file without empty segments at its start. -/
def dropEmptySegments (segments : List Text) : List Text :=
  match segments.dropWhile (·.isEmpty) with
  | [] => [[]]
  | segments => segments

end Uri

end Shorthand
