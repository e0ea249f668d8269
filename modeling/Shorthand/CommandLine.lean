import Shorthand.Text.Basic

/-!
# `Shorthand.CommandLine`: arguments of the program

Options have long names, and their values follow as the next argument or behind an
equals sign. A value is checked when the next option or the end is reached, so an
argument that is not known at all is reported before it.
-/

set_option autoImplicit false

namespace Shorthand

/-- What the arguments say. -/
structure CommandLine where
  /-- Messages on standard input and output, which is the only way there is. -/
  stdio : Bool := false
  logLevel : Text := "info"
  /-- Directory of snippets for every session. -/
  extensionsDir : Option Text := none
  deriving DecidableEq, Repr

namespace CommandLine

/-- Name of the program. -/
def programName : String := "emmet-language-server"

/-- Version of the program. -/
def programVersion : String := "0.1.0"

/-- What the program and its options are for. -/
def helpLines : List String := [
  "Language server for Emmet abbreviations",
  "",
  "Usage: emmet-language-server [OPTIONS]",
  "",
  "Options:",
  "      --stdio",
  "          Communicate over stdin/stdout",
  "      --extensions-dir <EXTENSIONS_DIR>",
  "          Directory containing snippets.json and syntaxProfiles.json",
  "      --log-level <LOG_LEVEL>",
  "          Log level (trace, debug, info, warn, error) [default: info]",
  "  -h, --help",
  "          Print help",
  "  -V, --version",
  "          Print version"]

/-- Why arguments are not taken as they stand. -/
inductive Fault where
  /-- An option that does not exist, or an argument that is not an option. -/
  | unknownArgument
  /-- A value that is missing or not allowed. -/
  | invalidValue
  /-- An option given twice. -/
  | argumentConflict
  /-- A value for an option without one. -/
  | tooManyValues
  /-- Help is asked for. -/
  | displayHelp
  /-- The version is asked for. -/
  | displayVersion
  deriving DecidableEq, Repr

namespace Fault

/-- The wording shown to a user. -/
def message : Fault → String
  | unknownArgument => "error: unexpected argument found"
  | invalidValue => "error: a value is required but none was supplied"
  | argumentConflict => "error: an argument cannot be used multiple times"
  | tooManyValues => "error: unexpected value found; no more were expected"
  | displayHelp => String.intercalate "\n" helpLines
  | displayVersion => programName ++ " " ++ programVersion

end Fault

/-- Options with a value. -/
inductive Valued where
  | logLevel
  | extensionsDir
  deriving DecidableEq, Repr

/-- What has been read so far. -/
structure Progress where
  stdio : Bool := false
  logLevel : Option Text := none
  extensionsDir : Option Text := none
  /-- An option whose value is awaited or not yet checked. -/
  pending : Option (Valued × Option Text) := none
  deriving DecidableEq, Repr

namespace Progress

/-- Gives an option its value. -/
def set (p : Progress) (option : Valued) (value : Text) : Except Fault Progress :=
  match option with
  | .logLevel =>
    if p.logLevel.isSome then .error .argumentConflict
    else .ok { p with logLevel := some value }
  | .extensionsDir =>
    if p.extensionsDir.isSome then .error .argumentConflict
    else if value = [] then .error .invalidValue
    else .ok { p with extensionsDir := some value }

/-- Checks the option whose value is awaited. -/
def settle (p : Progress) : Except Fault Progress :=
  match p.pending with
  | none => .ok p
  | some (_, none) => .error .invalidValue
  | some (option, some value) => set { p with pending := none } option value

/-- An option without a value, once the one before it is settled. -/
def flag (p : Progress) (value : Option Text) (use : Progress → Except Fault Progress) :
    Except Fault Progress :=
  match value with
  | some _ => .error .tooManyValues
  | none => p.settle.bind use

/-- An option with a value, once the one before it is settled. -/
def valued (p : Progress) (option : Valued) (value : Option Text) : Except Fault Progress :=
  p.settle.bind fun p =>
    match value with
    | some value => p.set option value
    | none => .ok { p with pending := some (option, none) }

/-- An option by its long name, with the value behind its equals sign. -/
def long (p : Progress) (name : Text) (value : Option Text) : Except Fault Progress :=
  if name = "stdio".toList then
    p.flag value fun p =>
      if p.stdio then .error .argumentConflict else .ok { p with stdio := true }
  else if name = "log-level".toList then p.valued .logLevel value
  else if name = "extensions-dir".toList then p.valued .extensionsDir value
  else if name = "help".toList then p.flag value fun _ => .error .displayHelp
  else if name = "version".toList then p.flag value fun _ => .error .displayVersion
  else .error .unknownArgument

/-- An option by its short name. -/
def short (p : Progress) (name : Char) : Except Fault Progress :=
  if name = 'h' then p.flag none fun _ => .error .displayHelp
  else if name = 'V' then p.flag none fun _ => .error .displayVersion
  else .error .unknownArgument

/-- An argument that is not an option: the awaited value, if any. -/
def plain (p : Progress) (argument : Text) : Except Fault Progress :=
  match p.pending with
  | some (option, none) => .ok { p with pending := some (option, some argument) }
  | _ => .error .unknownArgument

/-- One argument before the end of options. -/
def argument (p : Progress) : Text → Except Fault Progress
  | '-' :: '-' :: name =>
    match Text.splitOnce '=' name with
    | some (name, value) => p.long name (some value)
    | none => p.long name none
  | '-' :: c :: _ => p.short c
  | plainText => p.plain plainText

/-- All arguments. Nothing may follow the end of options. -/
def arguments : Progress → List Text → Except Fault Progress
  | p, [] => p.settle
  | p, argument :: rest =>
    if argument = ['-', '-'] then
      match rest with
      | [] => p.settle
      | _ :: _ => .error .unknownArgument
    else
      match p.argument argument with
      | .error fault => .error fault
      | .ok p => arguments p rest

end Progress

/-- Reads the arguments behind the name of the program. -/
def parse (arguments : List Text) : Except Fault CommandLine :=
  (Progress.arguments {} arguments).map fun p =>
    { stdio := p.stdio
      logLevel := p.logLevel.getD "info"
      extensionsDir := p.extensionsDir }

end CommandLine

end Shorthand
