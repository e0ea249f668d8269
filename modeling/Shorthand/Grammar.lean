import Shorthand.Text.Basic

/-!
# `Shorthand.Grammar`: which notation an abbreviation is written in

A grammar is known by its name. Markup grammars expand to tags and stylesheet
grammars to declarations. `Grammar.ofLanguage?` gives the grammar for an editor's
language identifier, and `Grammar.base` the grammar whose custom snippets a
grammar shares.
-/

set_option autoImplicit false

namespace Shorthand

namespace Grammar

/-- What a grammar's abbreviations expand to. -/
inductive Kind where
  | markup
  | stylesheet
  deriving DecidableEq, Repr

/-- Grammars of markup. -/
def markupNames : List String :=
  ["html", "xml", "xsl", "jsx", "js", "pug", "slim", "haml", "vue", "svelte"]

/-- Grammars of stylesheets. -/
def stylesheetNames : List String :=
  ["css", "sass", "scss", "less", "sss", "stylus"]

/-- The grammar used where none is named. -/
def default : Text := "html"

/-- The kind of a grammar, `none` for a name that is not a grammar's. -/
def kind? (name : Text) : Option Kind :=
  if Text.oneOf markupNames name then some .markup
  else if Text.oneOf stylesheetNames name then some .stylesheet
  else none

/-- The grammar that a language identifier is another name for, or the identifier. -/
def unalias (language : Text) : Text :=
  if Text.oneOf ["jsx-tags", "javascriptreact", "typescriptreact"] language then "jsx"
  else if Text.oneOf ["sass-indented"] language then "sass"
  else if Text.oneOf ["jade"] language then "pug"
  else language

/-- The grammar for documents of a language, when there is one. -/
def ofLanguage? (language : Text) : Option Text :=
  if (kind? (unalias language)).isSome then some (unalias language) else none

/-- The grammar whose custom snippets are shared: `css` among stylesheets, `html`
for all else. -/
def base (name : Text) : Text :=
  match kind? name with
  | some .stylesheet => "css"
  | _ => "html"

end Grammar

end Shorthand
