import Shorthand.Grammar
import Shorthand.Json.Basic

/-!
# `Shorthand.Snippet.Registry`: custom snippets, profiles and variables

What extension directories contribute to expansion. A grammar sees its own
snippets and, behind them, those of its base grammar.
-/

set_option autoImplicit false

namespace Shorthand

/-- Tables loaded from extension directories. -/
structure Registry where
  /-- Snippets by grammar and name. -/
  snippets : Dict (Dict Text) := []
  /-- Output profiles by grammar and key. -/
  profiles : Dict (Dict Json) := []
  /-- Values of variables. -/
  bindings : Dict Text := []

namespace Registry

/-- Whether nothing was loaded. -/
def isEmpty (r : Registry) : Bool :=
  r.snippets.all (fun (_, table) => table.isEmpty) && r.profiles.isEmpty && r.bindings.isEmpty

/-- The snippets that a grammar has of its own. -/
def ownSnippets (r : Registry) (grammar : Text) : Dict Text :=
  (Dict.get? r.snippets grammar).getD []

/-- Sets a snippet. -/
def addSnippet (r : Registry) (grammar name value : Text) : Registry :=
  { r with snippets := r.snippets.insert grammar ((r.ownSnippets grammar).insert name value) }

/-- Sets the keys of a profile and keeps its other keys. -/
def addProfile (r : Registry) (grammar : Text) (profile : Dict Json) : Registry :=
  { r with
    profiles :=
      r.profiles.insert grammar (((Dict.get? r.profiles grammar).getD []).extend profile) }

/-- Sets a variable. -/
def addVariable (r : Registry) (name value : Text) : Registry :=
  { r with bindings := r.bindings.insert name value }

/-- A grammar's own snippet of a name, or else the one of its base grammar. -/
def snippet? (r : Registry) (grammar name : Text) : Option Text :=
  ((r.ownSnippets grammar).get? name).or ((r.ownSnippets (Grammar.base grammar)).get? name)

/-- Names of the snippets that a grammar sees, ascending and each once. -/
def snippetNames (r : Registry) (grammar : Text) : List Text :=
  Text.sortDistinct
    ((r.ownSnippets grammar).keys ++ (r.ownSnippets (Grammar.base grammar)).keys)

/-- The profile of a grammar. -/
def profile? (r : Registry) (grammar : Text) : Option (Dict Json) :=
  Dict.get? r.profiles grammar

end Registry

end Shorthand
