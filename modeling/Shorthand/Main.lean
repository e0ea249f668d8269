import Shorthand.Files.Table
import Shorthand.Server.Wire

/-!
# `Shorthand.Main`: the program

Reads messages from standard input and writes answers to standard output. Before
each message the directories that it may need are read into a table, and the rest
is pure. Changed files in watched directories are noticed when the next message
arrives.
-/

set_option autoImplicit false

namespace Shorthand

namespace Program

/-- What the program carries from message to message. -/
structure State where
  server : Server := {}
  /-- The watched directories as they were last read. -/
  seen : FileTable := {}

/-- The bytes of a file, `none` when nothing is there. -/
def readFile (path : Text) : IO (Option (Option (List UInt8))) := do
  try
    let bytes ← IO.FS.readBinFile (String.ofList path)
    return some (some bytes.toList)
  catch
    | .noFileOrDirectory .. => return none
    | _ => return some none

/-- Looks at a directory by opening it under a name that only a directory has. -/
def readDirectory (path : Text) : IO FileTable := do
  try
    let _ ← IO.FS.Handle.mk (String.ofList (Extension.directoryPath path)) .read
    return { directories := [path] }
  catch
    | .noFileOrDirectory .. => return {}
    | _ => return { faults := [path] }

/-- The extension directories at some paths, with their files. -/
def readDirectories (paths : List Text) : IO FileTable := do
  let mut table : FileTable := {}
  for path in paths.filter Path.isAbsolute do
    table := table.append (← readDirectory path)
    for name in [Extension.snippetsFile, Extension.profilesFile] do
      let file := Path.join path name
      if let some content ← readFile file then
        table := table.append { files := [(file, content)] }
  return table

/-- Writes one message. -/
def send (output : IO.FS.Stream) (j : Json) : IO Unit := do
  output.write (Wire.frame j).toByteArray
  output.flush

/-- Reads one message, `none` at the end of the input. -/
def receive (input : IO.FS.Stream) : IO (Option (List UInt8)) := do
  let mut size : Option Nat := none
  let mut inHeader := true
  while inHeader do
    let line ← input.getLine
    if line.isEmpty then return none
    let content := Text.trim line.toList
    if content.isEmpty then inHeader := size.isNone
    else size := (Wire.sizeIn? content).or size
  let mut bytes : ByteArray := ByteArray.empty
  while bytes.size < size.getD 0 do
    let chunk ← input.read (size.getD 0 - bytes.size).toUSize
    if chunk.isEmpty then return none
    bytes := bytes ++ chunk
  return some bytes.toList

/-- Reads watched directories again and reports a change in them. -/
def refresh (output : IO.FS.Stream) (state : State) : IO State := do
  let now ← readDirectories state.server.watched
  match now.files.find? (· ∉ state.seen.files), state.seen.files.find? (· ∉ now.files) with
  | some (path, _), _ | none, some (path, _) =>
    let (server, message) := state.server.reload now.toFiles path
    send output (Wire.userMessage message)
    return { server, seen := now }
  | none, none => return state

/-- Handles one message. Gives `none` when the connection is over. -/
def handle (config : ServerConfig) (output : IO.FS.Stream) (state : State)
    (message : Incoming) : IO (Option State) := do
  let table ← readDirectories (Server.lookups config message)
  match state.server.step config table.toFiles message.id.isSome message.method
    message.params with
  | none => return none
  | some outcome =>
    for m in outcome.messages do
      send output (Wire.userMessage m)
    if let (some id, some reply) := (message.id, outcome.reply) then
      send output (Wire.reply id reply)
    if outcome.server.phase = .exited then return none
    return some { server := outcome.server, seen := ← readDirectories outcome.server.watched }

/-- Handles messages until the connection is over. -/
def serve (config : ServerConfig) (input output : IO.FS.Stream) : IO Unit := do
  let mut state : State := {}
  repeat
    let some bytes ← receive input | return ()
    state ← refresh output state
    match Json.ofBytes? bytes with
    | none => send output (Wire.failure .null Wire.parseErrorCode "Parse error")
    | some j =>
      if let some message := Incoming.ofJson? j then
        let some next ← handle config output state message | return ()
        state := next

/-- The directory for the user's own snippets. -/
def userDirectory : IO (Option Text) := do
  let below (base : String) (path : String) : Text :=
    Path.join (Path.join base path) CommandLine.programName
  match ← IO.getEnv "XDG_CONFIG_HOME", ← IO.getEnv "HOME" with
  | some base, home =>
    if Path.isAbsolute base then return some (Path.join base CommandLine.programName)
    else return home.map fun home => below home ".config"
  | none, home => return home.map fun home => below home ".config"

end Program

end Shorthand

open Shorthand in
/-- Reads the arguments and serves. -/
def main (args : List String) : IO UInt32 := do
  match CommandLine.parse (args.map String.toList) with
  | .error fault =>
    match fault with
    | .displayHelp | .displayVersion =>
      IO.println fault.message
      return 0
    | _ =>
      IO.eprintln fault.message
      return 2
  | .ok commandLine =>
    let workingDirectory := (← IO.currentDir).toString.toList
    let defaultDirectory ← match commandLine.extensionsDir with
      | some directory => pure (some directory)
      | none => Program.userDirectory
    Program.serve { workingDirectory, defaultDirectory } (← IO.getStdin) (← IO.getStdout)
    return 0
