import Shorthand.Json.Basic

/-!
# `Shorthand.Options`: what a client can set

`ExpandOptions` is what one expansion sees and `Settings` is what a client sets
for completion. Both are read from JSON objects: a known field that is absent or
null takes its default, one of another type makes the whole unreadable, and every
other field is kept.
-/

set_option autoImplicit false

namespace Shorthand

namespace Json

/-- A field with a default for its absence and for null. -/
def fieldOr {α : Type} (fields : Dict Json) (name : Text) (absent : α)
    (decode : Json → Option α) : Option α :=
  match fields.get? name with
  | none | some null => some absent
  | some value => decode value

/-- The fields of an object that have none of the given names. -/
def without (names : List String) (fields : Dict Json) : Dict Json :=
  fields.filter fun (name, _) => !Text.oneOf names name

/-- An object of strings. -/
def ofTexts (table : Dict Text) : Json :=
  obj (table.map fun (name, text) => (name, str text))

end Json

/-! ### Options of one expansion -/

/-- Options of one expansion. -/
structure ExpandOptions where
  /-- The grammar, when the caller names one. -/
  grammar : Option Text := none
  /-- Values of variables. -/
  bindings : Dict Text := []
  /-- Output options by key. -/
  output : Dict Json := []
  /-- Fields of no meaning to an expansion. -/
  extra : Dict Json := []

namespace ExpandOptions

/-- Key of the self-closing style. -/
def selfClosingKey : Text := "output.selfClosingStyle"

/-- Key of the indentation unit. -/
def indentKey : Text := "output.indent"

/-- Key of the unit of integers. -/
def intUnitKey : Text := "stylesheet.intUnit"

/-- Key of the unit of fractions. -/
def floatUnitKey : Text := "stylesheet.floatUnit"

/-- The fields with a meaning. -/
def knownFields : List String := ["syntax", "variables", "options"]

/-- Reads options from an object. -/
def ofJson? (j : Json) : Option ExpandOptions := do
  let fields ← j.fields?
  let grammar ← Json.fieldOr fields "syntax" none fun v => v.text?.map some
  let bindings ← Json.fieldOr fields "variables" [] Json.textFields?
  let output ← Json.fieldOr fields "options" [] Json.fields?
  return { grammar, bindings, output, extra := Json.without knownFields fields }

/-- Writes options as one object. -/
def toJson (o : ExpandOptions) : Json :=
  let grammar : Dict Json := match o.grammar with
    | some name => [("syntax", .str name)]
    | none => []
  .obj (grammar ++
    [("variables".toList, Json.ofTexts o.bindings), ("options".toList, .obj o.output)] ++ o.extra)

/-- An output option that is a string. -/
def text? (o : ExpandOptions) (key : Text) : Option Text :=
  (o.output.get? key).bind Json.text?

/-- Names a grammar unless the caller named one. -/
def withDefaultGrammar (o : ExpandOptions) (name : Text) : ExpandOptions :=
  if o.grammar.getD [] = [] then { o with grammar := some name } else o

end ExpandOptions

/-! ### Settings of completion -/

/-- When the expansion of the abbreviation itself is offered. -/
inductive ShowExpanded where
  | always
  | markupAndStylesheetFilesOnly
  | never
  deriving DecidableEq, Repr

namespace ShowExpanded

/-- The name in settings. -/
def name : ShowExpanded → Text
  | always => "always"
  | markupAndStylesheetFilesOnly => "inMarkupAndStylesheetFilesOnly"
  | never => "never"

/-- The value with a name. -/
def ofName? (t : Text) : Option ShowExpanded :=
  [always, markupAndStylesheetFilesOnly, never].find? fun value => value.name == t

/-- Reads the name, or an object with the name as its one field and null in it. -/
def ofJson? : Json → Option ShowExpanded
  | .str t => ofName? t
  | .obj [(t, .null)] => ofName? t
  | _ => none

end ShowExpanded

/-- Settings of completion. -/
structure Settings where
  showExpanded : ShowExpanded := .always
  showSuggestions : Bool := true
  suggestionsAsSnippets : Bool := false
  /-- Output profiles by grammar. -/
  profiles : Dict Json := []
  bindings : Dict Text := []
  /-- Output options by key. -/
  preferences : Dict Json := []
  /-- Languages without completion. -/
  excludedLanguages : List Text := []
  /-- Fields of no meaning to completion. -/
  extra : Dict Json := []

namespace Settings

/-- The fields with a meaning. -/
def knownFields : List String :=
  ["showExpandedAbbreviation", "showAbbreviationSuggestions", "showSuggestionsAsSnippets",
    "syntaxProfiles", "variables", "preferences", "excludeLanguages"]

/-- Reads settings from fields. -/
def ofFields? (fields : Dict Json) : Option Settings := do
  let showExpanded ←
    Json.fieldOr fields "showExpandedAbbreviation" .always ShowExpanded.ofJson?
  let showSuggestions ← Json.fieldOr fields "showAbbreviationSuggestions" true Json.bool?
  let suggestionsAsSnippets ← Json.fieldOr fields "showSuggestionsAsSnippets" false Json.bool?
  let profiles ← Json.fieldOr fields "syntaxProfiles" [] Json.fields?
  let bindings ← Json.fieldOr fields "variables" [] Json.textFields?
  let preferences ← Json.fieldOr fields "preferences" [] Json.fields?
  let excludedLanguages ← Json.fieldOr fields "excludeLanguages" [] Json.texts?
  return { showExpanded, showSuggestions, suggestionsAsSnippets, profiles, bindings,
           preferences, excludedLanguages, extra := Json.without knownFields fields }

/-- Reads settings from an object. -/
def ofJson? (j : Json) : Option Settings :=
  j.fields?.bind ofFields?

/-- Writes settings as fields, the meaningful ones first. -/
def toFields (s : Settings) : Dict Json :=
  [("showExpandedAbbreviation".toList, .str s.showExpanded.name),
    ("showAbbreviationSuggestions".toList, .bool s.showSuggestions),
    ("showSuggestionsAsSnippets".toList, .bool s.suggestionsAsSnippets),
    ("syntaxProfiles".toList, .obj s.profiles),
    ("variables".toList, Json.ofTexts s.bindings),
    ("preferences".toList, .obj s.preferences),
    ("excludeLanguages".toList, .arr (s.excludedLanguages.map .str))] ++ s.extra

/-- The output key that a preference sets. -/
def outputKey (key : Text) : Text :=
  if key = "css.intUnit".toList then ExpandOptions.intUnitKey
  else if key = "css.floatUnit".toList then ExpandOptions.floatUnitKey
  else key

/-- Options for an expansion in a grammar: the preferences, and over them the
self-closing style of the grammar's profile. -/
def expandOptions (s : Settings) (grammar : Text) : ExpandOptions :=
  let output := s.preferences.foldl
    (fun (d : Dict Json) (key, value) => d.insert (outputKey key) value) []
  let style := (s.profiles.get? grammar).bind fun p => p.field? "selfClosingStyle"
  { grammar := some grammar
    bindings := s.bindings
    output := match style with
      | some style => Dict.insert output ExpandOptions.selfClosingKey style
      | none => output }

end Settings

end Shorthand
