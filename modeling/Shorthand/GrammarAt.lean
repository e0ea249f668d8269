import Shorthand.Document.Basic
import Shorthand.Grammar
import Shorthand.Session
import Shorthand.Tag.Region

/-!
# `Shorthand.GrammarAt`: the grammar at a position

Inside a style element the grammar is `css`, elsewhere it is the grammar of the
document's language, and `html` for languages without one. An included language
overrides all of it, as long as its grammar exists.
-/

set_option autoImplicit false

namespace Shorthand

namespace Session

/-- The grammar that the session includes a language under. -/
def included? (s : Session) (language : Text) : Option Text :=
  match s.includeLanguages.get? language with
  | some target => if target = [] then none else Grammar.ofLanguage? target
  | none => none

/-- The grammar of the style element around an offset. -/
def styleGrammar? (text : Text) (offset : Nat) : Option Text :=
  match Region.at? text offset with
  | some region => if Text.eqIgnoreCase region.name "style" then some "css" else none
  | none => none

/-- The grammar at a position of a document. -/
def grammarAt (s : Session) (document : Document) (position : Position) : Text :=
  let offset := Text.offsetAt document.text position
  (s.included? document.language).getD
    (((styleGrammar? document.text offset).or (Grammar.ofLanguage? document.language)).getD
      Grammar.default)

/-- The grammar of a language without a document. -/
def grammarOf (s : Session) (language : Text) : Text :=
  ((s.included? language).or (Grammar.ofLanguage? language)).getD Grammar.default

end Session

end Shorthand
