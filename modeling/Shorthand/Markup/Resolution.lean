import Shorthand.Abbreviation.Parser
import Shorthand.Snippet.Builtin
import Shorthand.Snippet.Variables
import Shorthand.Text.Blank

/-!
# `Shorthand.Markup.Resolution`: elements that name snippets

An element whose name is a snippet's is replaced by what the snippet stands for,
joined with what was written on the element. A snippet may name further snippets,
up to `maxSnippetDepth` of them inside one another, but not itself.
-/

set_option autoImplicit false

namespace Shorthand

namespace Markup

/-- What a snippet stands for. -/
inductive Body where
  /-- Text that is written out as it is. -/
  | raw (text : Text)
  /-- An abbreviation to be read. -/
  | abbreviation (source : Text)
  deriving DecidableEq, Repr

/-- Where snippets are looked up. -/
structure Scope where
  grammar : Text
  registry : Registry
  bindings : Dict Text

namespace Scope

/-- The scope of an expansion. -/
def ofOptions (grammar : Text) (registry : Registry) (options : ExpandOptions) : Scope :=
  { grammar, registry, bindings := Snippet.bindings registry options }

/-- The snippet of a name. A custom one comes first, and it is raw text when it
starts with a tag. -/
def lookup (scope : Scope) (name : Text) : Option Body :=
  match scope.registry.snippet? scope.grammar name with
  | some custom =>
    let text := Snippet.substitute scope.bindings custom
    if (Text.trimStart text).head? = some '<' then some (.raw text)
    else some (.abbreviation text)
  | none =>
    (Snippet.builtin? name).map fun source =>
      .abbreviation (Snippet.substitute scope.bindings source)

end Scope

/-! ### Joining what was written with the snippet -/

/-- Puts one written attribute on an element: classes are added, everything else is
set. -/
def mergeAttribute (e : Element) (a : Attribute) : Element :=
  match a.value with
  | some value =>
    if a.name = "class".toList ∧ value ≠ [] then e.addClass value
    else e.setAttribute a.name a.value
  | none => e.setAttribute a.name a.value

/-- The element of a snippet with what was written put on it. -/
def mergeElement (written snippet : Element) : Element :=
  let merged := written.attributes.foldl mergeAttribute snippet
  { merged with
    text := written.text.or merged.text
    count := written.count.or merged.count
    selfClosing := merged.selfClosing || written.selfClosing }

/-- Joins a written element and its children with the forest of the snippet that it
names. A forest of several nodes becomes a group, which takes the repeat count and
the children. -/
def merge (written : Element) (children : List Node) : List Node → Node
  | [.element snippet below] => .element (mergeElement written snippet) (below ++ children)
  | forest =>
    let group := Node.group forest written.count
    if children.isEmpty then group else group.append children

/-! ### Replacing elements -/

mutual

/-- Rebuilds a node from the leaves upward, with a rule for elements whose children
are done. -/
def rebuild (rule : Element → List Node → Except ExpandError Node) :
    Node → Except ExpandError Node
  | .element head children =>
    match rebuildForest rule children with
    | .error e => .error e
    | .ok children => rule head children
  | .group members count =>
    match rebuildForest rule members with
    | .error e => .error e
    | .ok members => .ok (.group members count)

/-- Rebuilds nodes from left to right. -/
def rebuildForest (rule : Element → List Node → Except ExpandError Node) :
    List Node → Except ExpandError (List Node)
  | [] => .ok []
  | node :: rest =>
    match rebuild rule node with
    | .error e => .error e
    | .ok node =>
      match rebuildForest rule rest with
      | .error e => .error e
      | .ok rest => .ok (node :: rest)

end

/-- The rule for one element: the snippet of its name takes its place, unless the
name is `skip`. `deeper` resolves the snippet's own forest. -/
def resolveElement (scope : Scope) (skip : Option Text)
    (deeper : Text → List Node → Except ExpandError (List Node))
    (head : Element) (children : List Node) : Except ExpandError Node :=
  match head.name with
  | none => .ok (.element head children)
  | some name =>
    if some name = skip then .ok (.element head children)
    else
      match scope.lookup name with
      | none => .ok (.element head children)
      | some (.raw text) => .ok (.element { text := some text, count := head.count } [])
      | some (.abbreviation source) =>
        match Abbreviation.parse source with
        | .error e => .error e
        | .ok forest =>
          match deeper name forest with
          | .error e => .error e
          | .ok forest => .ok (merge head children forest)

/-- Replaces the elements that name snippets, with at most `depth` snippets inside
one another. `skip` is the snippet being replaced, which its own forest may name
as a plain element. -/
def resolve (scope : Scope) : Nat → Option Text → List Node → Except ExpandError (List Node)
  | 0, _, forest => .ok forest
  | depth + 1, skip, forest =>
    rebuildForest
      (resolveElement scope skip fun name inner => resolve scope depth (some name) inner)
      forest

end Markup

end Shorthand
