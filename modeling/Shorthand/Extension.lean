import Shorthand.Files.Basic
import Shorthand.Json.Reader
import Shorthand.Path
import Shorthand.Snippet.Registry
import Shorthand.Uri.LocalPath
import Shorthand.Uri.Parser

/-!
# `Shorthand.Extension`: loading extension directories

A directory may hold a file of snippets and a file of profiles. Directories are
read in order into a fresh registry, and what a later one sets goes over what an
earlier one set. One failure fails the whole load.
-/

set_option autoImplicit false

namespace Shorthand

/-- Why a file cannot be had. -/
inductive FileError where
  /-- An identifier that names no file here. -/
  | uri (fault : Uri.Fault)
  /-- Searching or reading failed. -/
  | io (path : Text)
  deriving DecidableEq, Repr

namespace FileError

/-- The wording shown to a client. -/
def message : FileError → Text
  | uri (.unsupportedScheme scheme) =>
    "scheme '".toList ++ scheme ++ "' is not supported".toList
  | uri (.notLocal name) => "'".toList ++ name ++ "' does not name a local path".toList
  | io path => "I/O error on ".toList ++ path

end FileError

namespace Files

/-- What a path names, or the failure to find out. -/
def statAt (files : Files) (path : Text) : Except FileError FileStat :=
  match files.stat path with
  | some stat => .ok stat
  | none => .error (.io path)

/-- The bytes at a path, or the failure to read them. -/
def readAt (files : Files) (path : Text) : Except FileError (List UInt8) :=
  match files.read path with
  | some bytes => .ok bytes
  | none => .error (.io path)

/-- What an identifier names, or the failure to find out. -/
def statUri (files : Files) (uri : Uri) : Except FileError FileStat :=
  match uri.localPath with
  | .ok path => files.statAt path
  | .error fault => .error (.uri fault)

/-- The bytes of what an identifier names, or the failure to read them. -/
def readUri (files : Files) (uri : Uri) : Except FileError (List UInt8) :=
  match uri.localPath with
  | .ok path => files.readAt path
  | .error fault => .error (.uri fault)

end Files

/-- Why a load fails. -/
inductive ExtensionError where
  | file (error : FileError)
  | notADirectory (path : Text)
  | notAbsolute (path : Text)
  | invalidJson (path : Text)
  deriving DecidableEq, Repr

namespace ExtensionError

/-- The wording shown to a client. -/
def message : ExtensionError → Text
  | file error => error.message
  | notADirectory path => "extension path ".toList ++ path ++ " is not a directory".toList
  | notAbsolute path => "extension path ".toList ++ path ++ " is not absolute".toList
  | invalidJson path => "invalid JSON in ".toList ++ path

end ExtensionError

namespace Extension

/-- Name of the file of snippets in an extension directory. -/
def snippetsFile : Text := "snippets.json"

/-- Name of the file of profiles in an extension directory. -/
def profilesFile : Text := "syntaxProfiles.json"

/-! ### Paths as they are looked up -/

/-- An absolute path as a file is looked up under. -/
def filePath (path : Text) : Text :=
  Path.ofComponents true (Path.components path)

/-- An absolute path as a directory is looked up under, with a slash at its end. -/
def directoryPath (path : Text) : Text :=
  Path.join (filePath path) []

/-! ### Contents -/

/-- The entries of an object whose values are strings. -/
def textEntries (fields : Dict Json) : Dict Text :=
  fields.filterMap fun (name, value) => value.text?.map fun text => (name, text)

/-- Adds one section of a file of snippets: the variables, or the snippets of a
grammar. Whatever has another shape is passed over. -/
def addSection (registry : Registry) (key : Text) (value : Json) : Registry :=
  match value with
  | .obj fields =>
    if key = "variables".toList then
      (textEntries fields).foldl (fun r (name, value) => r.addVariable name value) registry
    else
      match Dict.get? fields "snippets" with
      | some (.obj snippets) =>
        (textEntries snippets).foldl (fun r (name, value) => r.addSnippet key name value) registry
      | _ => registry
  | _ => registry

/-- Adds a file of snippets. -/
def addSnippets (registry : Registry) (root : Dict Json) : Registry :=
  root.foldl (fun r (key, value) => addSection r key value) registry

/-- Adds a file of profiles. -/
def addProfiles (registry : Registry) (root : Dict Json) : Registry :=
  root.foldl
    (fun r (grammar, value) => match value with
      | .obj profile => r.addProfile grammar profile
      | _ => r)
    registry

/-! ### Reading -/

/-- The object in an optional file. A file that is not there, or that holds another
value than an object, contributes nothing. -/
def readObject (files : Files) (path : Text) : Except ExtensionError (Dict Json) :=
  match files.statAt (filePath path) with
  | .error e => .error (.file e)
  | .ok stat =>
    if stat.type = .unknown then .ok []
    else
      match files.readAt (filePath path) with
      | .error e => .error (.file e)
      | .ok bytes =>
        match Json.ofBytes? bytes with
        | none => .error (.invalidJson path)
        | some value => .ok (value.fields?.getD [])

/-- Whether a path is an extension directory. -/
def checkDirectory (files : Files) (directory : Text) : Except ExtensionError Unit :=
  if Path.isAbsolute directory then
    match files.statAt (directoryPath directory) with
    | .error e => .error (.file e)
    | .ok stat => if stat.type = .directory then .ok () else .error (.notADirectory directory)
  else .error (.notAbsolute directory)

/-- Adds what a directory holds. -/
def loadDirectory (files : Files) (registry : Registry) (directory : Text) :
    Except ExtensionError Registry := do
  checkDirectory files directory
  let snippets ← readObject files (Path.join directory snippetsFile)
  let profiles ← readObject files (Path.join directory profilesFile)
  return addProfiles (addSnippets registry snippets) profiles

/-- The registry of several directories, in order. -/
def load (files : Files) (directories : List Text) : Except ExtensionError Registry :=
  directories.foldlM (loadDirectory files) {}

end Extension

end Shorthand
