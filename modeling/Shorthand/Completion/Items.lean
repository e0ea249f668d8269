import Shorthand.Completion.Extract
import Shorthand.Document.Basic
import Shorthand.Expansion

/-!
# `Shorthand.Completion.Items`: completions for an abbreviation

The abbreviation before the cursor is offered with its expansion, and in markup a
bare word is also offered the snippets whose names it begins. Each item replaces
exactly the abbreviation.
-/

set_option autoImplicit false

namespace Shorthand

namespace Completion

/-- One completion. -/
structure Item where
  /-- The abbreviation, or the name of the snippet. -/
  label : Text
  /-- Offered as a snippet, not as a property. -/
  asSnippet : Bool
  /-- What the item replaces. -/
  range : Range
  /-- What it puts there, with tab stops. -/
  newText : Text
  deriving DecidableEq, Repr

namespace Item

/-- The expansion as an editor shows it. -/
def documentation (item : Item) : Text :=
  preview item.newText

end Item

/-- Grammars of files that are markup or stylesheets throughout. -/
def fileGrammars : List String :=
  ["html", "xml", "xsl", "pug", "slim", "haml", "css", "scss", "sass", "less", "stylus", "sss"]

/-- Whether the expansion of the abbreviation itself is offered in a grammar. -/
def showsExpanded (grammar : Text) : ShowExpanded → Bool
  | .always => true
  | .markupAndStylesheetFilesOnly => Text.oneOf fileGrammars grammar
  | .never => false

/-- A word that could be the beginning of a snippet's name. -/
def isBareWord (abbreviation : Text) : Bool :=
  abbreviation.all fun c =>
    Text.isAlphanumeric c || c == '-' || c == ':' || c == '!' || c == '+'

/-- Whether an abbreviation is worth an item of its own: in markup a bare word has to
be a known name, and in a stylesheet all parts have to name properties. -/
def isWorthExpanding (kind : Grammar.Kind) (grammar : Text) (registry : Registry)
    (abbreviation : Text) : Bool :=
  match kind with
  | .markup => !isBareWord abbreviation || Markup.isKnownName abbreviation grammar registry
  | .stylesheet => Stylesheet.isKnown abbreviation grammar registry

/-- Names of all markup snippets, built in or custom, ascending and each once. -/
def snippetNames (grammar : Text) (registry : Registry) : List Text :=
  Text.sortDistinct (Snippet.builtinNames ++ registry.snippetNames grammar)

/-- The names that an abbreviation is a proper beginning of. -/
def suggestions (grammar : Text) (registry : Registry) (abbreviation : Text) : List Text :=
  (snippetNames grammar registry).filter fun name =>
    name != abbreviation && Text.startsWith name abbreviation

/-- What is offered for an abbreviation, in order and before expansion. -/
def labels (kind : Grammar.Kind) (grammar : Text) (settings : Settings) (registry : Registry)
    (abbreviation : Text) : List Text :=
  let own :=
    if showsExpanded grammar settings.showExpanded &&
        isWorthExpanding kind grammar registry abbreviation then [abbreviation] else []
  let others :=
    if settings.showSuggestions && kind == .markup && isBareWord abbreviation then
      suggestions grammar registry abbreviation else []
  own ++ others

/-- The item of a label, when it expands. -/
def item? (grammar : Text) (settings : Settings) (registry : Registry) (range : Range)
    (label : Text) : Option Item :=
  match expand label (settings.expandOptions grammar) registry with
  | .ok newText => some { label, asSnippet := settings.suggestionsAsSnippets, range, newText }
  | .error _ => none

/-- The completions at a position, `none` when there are none. -/
def complete (document : Document) (position : Position) (grammar : Text) (settings : Settings)
    (registry : Registry) : Option (List Item) :=
  if settings.excludedLanguages.contains document.language then none
  else
    match Grammar.kind? grammar, extract (Text.linePrefixAt document.text position) with
    | some kind, some (before, abbreviation) =>
      if kind = .markup ∧ before.getLast? = some '<' then none
      else
        let start := Text.offsetAt document.text position - Text.utf8Size abbreviation
        let range := ⟨Text.positionAt document.text start, position⟩
        match (labels kind grammar settings registry abbreviation).filterMap
            (item? grammar settings registry range) with
        | [] => none
        | items => some items
    | _, _ => none

end Completion

end Shorthand
