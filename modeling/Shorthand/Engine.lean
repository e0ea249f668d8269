import Shorthand.Completion.Items
import Shorthand.Expansion
import Shorthand.Extension

/-!
# `Shorthand.Engine`: expansion over loaded extensions

An engine answers with the tables of its last successful load. A load reads into
fresh tables and puts them in place only when all of it succeeded, so a failure
leaves no trace.
-/

set_option autoImplicit false

namespace Shorthand

/-- What expansion and completion look up. -/
structure Engine where
  registry : Registry := {}

namespace Engine

/-- Replaces the tables by those of some directories. A failed load keeps them, and
gives its error. -/
def load (engine : Engine) (files : Files) (directories : List Text) :
    Engine × Except ExtensionError Unit :=
  match Extension.load files directories with
  | .ok registry => ({ registry }, .ok ())
  | .error e => (engine, .error e)

/-- The engine after several loads, each with the answers of its own file system. -/
def loads (engine : Engine) (calls : List (Files × List Text)) : Engine :=
  calls.foldl (fun engine (files, directories) => (engine.load files directories).1) engine

/-- The expansion of an abbreviation. -/
def expand (engine : Engine) (abbreviation : Text) (options : ExpandOptions) :
    Except ExpandError Text :=
  Shorthand.expand abbreviation options engine.registry

/-- The expansion of an abbreviation, unless it crashes. -/
def expand? (engine : Engine) (abbreviation : Text) (options : ExpandOptions) :
    Option (Except ExpandError Text) :=
  Shorthand.expand? abbreviation options engine.registry

/-- Completions for the abbreviation that ends at a position. -/
def complete (engine : Engine) (document : Document) (position : Position) (grammar : Text)
    (settings : Settings) : Option (List Completion.Item) :=
  Completion.complete document position grammar settings engine.registry

end Engine

end Shorthand
