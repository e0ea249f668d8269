import Shorthand.Text.Blank

/-!
# `Shorthand.Path`: paths of files and directories

A path is text with slashes. `components` drops empty parts and single dots,
`normalize` also folds double dots without looking at the disk, and `resolveAll`
turns the directories that a client configures into paths from the working
directory.
-/

set_option autoImplicit false

namespace Shorthand

namespace Path

/-- Whether a path starts at the root. -/
def isAbsolute (path : Text) : Bool :=
  path.head? == some '/'

/-- The parts between slashes, without empty ones and single dots. -/
def components (path : Text) : List Text :=
  (Text.split '/' path).filter fun part => part != [] && part != ['.']

/-- The path of parts, from the root or not. -/
def ofComponents (absolute : Bool) (parts : List Text) : Text :=
  (if absolute then ['/'] else []) ++ Text.join ['/'] parts

/-- A double dot. -/
def parent : Text := ['.', '.']

/-- Folds double dots: each takes back the part before it, and stands for itself
where there is none. `done` holds the parts so far, the last one first. -/
def foldParents (done : List Text) : List Text → List Text
  | [] => done.reverse
  | part :: rest =>
    if part = parent then
      match done with
      | [] => foldParents [parent] rest
      | _ :: before => foldParents before rest
    else foldParents (part :: done) rest

/-- The path without dots, as far as they can be folded. -/
def normalize (path : Text) : Text :=
  ofComponents (isAbsolute path) (foldParents [] (components path))

/-- A path below a directory. -/
def join (directory path : Text) : Text :=
  if directory = [] ∨ directory.getLast? = some '/' then directory ++ path
  else directory ++ '/' :: path

/-- A configured directory seen from the working directory. An absolute one stays as
it is. -/
def resolve (workingDirectory entry : Text) : Text :=
  if isAbsolute entry then entry else normalize (join workingDirectory entry)

/-- Configured directories seen from the working directory, blank ones dropped. -/
def resolveAll (workingDirectory : Text) (entries : List Text) : List Text :=
  ((entries.map Text.trim).filter (· != [])).map (resolve workingDirectory)

end Path

end Shorthand
