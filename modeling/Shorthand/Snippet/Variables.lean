import Shorthand.Options
import Shorthand.Snippet.Registry

/-!
# `Shorthand.Snippet.Variables`: variables in snippets

A reference to a variable is its name in braces behind a dollar sign. Variables
are substituted one after another, in the order of their table. References to
unknown names stay.
-/

set_option autoImplicit false

namespace Shorthand

namespace Snippet

/-- A reference to a variable. -/
def reference (name : Text) : Text :=
  "$\x7b".toList ++ name ++ "\x7d".toList

/-- The source with the references to each variable replaced by its value. -/
def substitute (bindings : Dict Text) (source : Text) : Text :=
  bindings.foldl (fun t (name, value) => Text.replace (reference name) value t) source

/-- Variables that have a value from the start. -/
def defaultVariables : Dict Text :=
  [("lang", "en"), ("charset", "UTF-8")]

/-- The variables of an expansion: the caller's over the loaded ones over the
defaults. They have no order of their own, and this is one in which they may be
visited. -/
def bindings (registry : Registry) (options : ExpandOptions) : Dict Text :=
  (defaultVariables.extend registry.bindings).extend options.bindings

end Snippet

end Shorthand
