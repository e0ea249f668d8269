import Shorthand.Markup.Layout
import Shorthand.Markup.Resolution

/-!
# `Shorthand.Markup.Expansion`: markup abbreviations

An abbreviation is parsed, its snippets are resolved, its repeats are unrolled and
its trees are laid out. A snippet may also be named by the abbreviation as a whole,
which allows names that are no abbreviations themselves.

`expand?` gives nothing where a counter token has no number, which crashes the
program, and `expand` is its result everywhere else.
-/

set_option autoImplicit false

namespace Shorthand

namespace Markup

/-- Markup grammars whose output is not made of tags. -/
def unsupported : List String := ["pug", "slim", "haml"]

/-- The style of a grammar's tags: set by the caller, else by the grammar's profile,
else the grammar's own. A name that is no style's counts as none. -/
def styleOf (grammar : Text) (registry : Registry) (options : ExpandOptions) : Style :=
  let profile := (registry.profile? grammar).bind fun p =>
    (Dict.get? p "selfClosingStyle").bind Json.text?
  let name := (options.text? ExpandOptions.selfClosingKey).or profile
  { jsx := grammar = "jsx".toList
    selfClosing := (name.bind SelfClosing.ofName?).getD (SelfClosing.ofGrammar grammar) }

/-- The unit of indentation. -/
def indentOf (options : ExpandOptions) : Text :=
  (options.text? ExpandOptions.indentKey).getD ['\t']

/-- The resolved forest of a trimmed abbreviation, or the raw text of the snippet
that it names as a whole. -/
def resolved (scope : Scope) (abbreviation : Text) : Except ExpandError (Text ⊕ List Node) :=
  match scope.lookup abbreviation with
  | some (.raw text) => .ok (.inl text)
  | some (.abbreviation source) =>
    match Abbreviation.parse source with
    | .error e => .error e
    | .ok forest =>
      (resolve scope (maxSnippetDepth - 1) (some abbreviation) forest).map .inr
  | none =>
    match Abbreviation.parse abbreviation with
    | .error e => .error e
    | .ok forest => (resolve scope maxSnippetDepth none forest).map .inr

/-- The expansion of a markup abbreviation in a grammar. -/
def expand (abbreviation grammar : Text) (registry : Registry) (options : ExpandOptions) :
    Except ExpandError Text :=
  let abbreviation := Text.trim abbreviation
  if abbreviation = [] then .error .empty
  else if Text.oneOf unsupported grammar then .error (.unsupportedGrammar grammar)
  else
    match resolved (Scope.ofOptions grammar registry options) abbreviation with
    | .error e => .error e
    | .ok (.inl text) => .ok text
    | .ok (.inr forest) =>
      match unroll none {} forest maxNodes with
      | none => .error .tooLarge
      | some (trees, _) =>
        .ok (render (styleOf grammar registry options) (indentOf options) trees)

/-- The expansion of a markup abbreviation in a scope, unless it crashes. -/
def expandIn? (scope : Scope) (options : ExpandOptions) (abbreviation : Text) :
    Option (Except ExpandError Text) :=
  let abbreviation := Text.trim abbreviation
  if abbreviation = [] then some (.error .empty)
  else if Text.oneOf unsupported scope.grammar then
    some (.error (.unsupportedGrammar scope.grammar))
  else
    match resolved scope abbreviation with
    | .error e => some (.error e)
    | .ok (.inl text) => some (.ok text)
    | .ok (.inr forest) =>
      match tryUnroll none {} forest maxNodes with
      | .error .crash => none
      | .error .tooLarge => some (.error .tooLarge)
      | .ok (trees, _) =>
        some (.ok (render (styleOf scope.grammar scope.registry options) (indentOf options) trees))

/-- The expansion of a markup abbreviation in a grammar, unless it crashes. -/
def expand? (abbreviation grammar : Text) (registry : Registry) (options : ExpandOptions) :
    Option (Except ExpandError Text) :=
  expandIn? (Scope.ofOptions grammar registry options) options abbreviation

/-- Whether a bare word names an element or a snippet. -/
def isKnownName (name grammar : Text) (registry : Registry) : Bool :=
  Text.oneOf tagNames name || (Snippet.builtin? name).isSome ||
    (registry.snippet? grammar name).isSome

end Markup

end Shorthand
