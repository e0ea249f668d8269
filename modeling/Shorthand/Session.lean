import Shorthand.Options
import Shorthand.Path

/-!
# `Shorthand.Session`: what a client configures

A session is read from the options of the first message or from a later change of
settings, and written as one flat object. Reading follows the rules of
`Shorthand.Options`.
-/

set_option autoImplicit false

namespace Shorthand

/-- The configuration of a connection. -/
structure Session where
  /-- Settings of completion. -/
  settings : Settings := {}
  /-- Directories with custom snippets and profiles, as they were given. -/
  extensionsPath : List Text := []
  /-- Grammars for further languages. -/
  includeLanguages : Dict Text := []

namespace Session

/-- The fields with a meaning to the session itself. -/
def knownFields : List String := ["extensionsPath", "includeLanguages"]

/-- Reads a session from an object. -/
def ofJson? (j : Json) : Option Session := do
  let fields ← j.fields?
  let settings ← Settings.ofFields? (Json.without knownFields fields)
  let extensionsPath ← Json.fieldOr fields "extensionsPath" [] Json.texts?
  let includeLanguages ← Json.fieldOr fields "includeLanguages" [] Json.textFields?
  return { settings, extensionsPath, includeLanguages }

/-- Writes a session as one flat object. -/
def toJson (s : Session) : Json :=
  .obj ([("extensionsPath".toList, .arr (s.extensionsPath.map .str)),
    ("includeLanguages".toList, Json.ofTexts s.includeLanguages)] ++ s.settings.toFields)

/-- The session of the options of the first message. What cannot be read counts as
no options. -/
def ofInitialization (options : Option Json) : Session :=
  (options.bind ofJson?).getD {}

/-- The session of changed settings, when they have a readable section for it. -/
def ofChange? (settings : Json) : Option Session :=
  (settings.field? "emmet").bind ofJson?

/-- The configured directories as absolute paths. -/
def directories (s : Session) (workingDirectory : Text) : List Text :=
  Path.resolveAll workingDirectory s.extensionsPath

end Session

end Shorthand
