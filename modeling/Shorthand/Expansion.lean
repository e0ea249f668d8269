import Shorthand.Markup.Expansion
import Shorthand.Stylesheet.Expansion

/-!
# `Shorthand.Expansion`: abbreviations of every grammar
-/

set_option autoImplicit false

namespace Shorthand

/-- The expansion of an abbreviation in the grammar that the options name, which is
`html` when they name none. -/
def expand (abbreviation : Text) (options : ExpandOptions) (registry : Registry) :
    Except ExpandError Text :=
  let named := options.grammar.getD []
  let grammar := if named = [] then Grammar.default else named
  match Grammar.kind? grammar with
  | some .markup => Markup.expand abbreviation grammar registry options
  | some .stylesheet => Stylesheet.expand abbreviation grammar registry options
  | none => .error (.unknownGrammar grammar)

/-- The expansion of an abbreviation, unless it crashes. -/
def expand? (abbreviation : Text) (options : ExpandOptions) (registry : Registry) :
    Option (Except ExpandError Text) :=
  let named := options.grammar.getD []
  let grammar := if named = [] then Grammar.default else named
  match Grammar.kind? grammar with
  | some .markup => Markup.expand? abbreviation grammar registry options
  | some .stylesheet => some (Stylesheet.expand abbreviation grammar registry options)
  | none => some (.error (.unknownGrammar grammar))

end Shorthand
