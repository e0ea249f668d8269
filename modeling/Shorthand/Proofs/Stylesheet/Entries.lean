import Shorthand.Stylesheet.Declaration

/-!
# `Shorthand.Proofs.Stylesheet.Entries`: what a part is taken for

The look-up of a part goes through a chain of tables and then divides the part into a name and
what is said of it. None of this depends on how far the look-up of a name goes, or on the units
of numbers. `entryOf` is this part of the work and `Entry.declare` the rest of it, and
`declaration_eq` says that together they are the declaration of a part.

So a statement about declarations is one about three kinds of entries: a declaration that is
written out, the short name of a property, and a name with an `Assignment`, which is nothing, a
word or a text of values.

Two facts follow at once. A declaration that the exact look-up finds is found by the fuzzy one as
well (`Entry.declare_fuzzy`), because beginnings of names and unknown words are tried last. And
units decide how a value is written, not whether there is one (`Entry.declare_units`).
-/

set_option autoImplicit false

namespace Shorthand

namespace Stylesheet

/-- What is said of a property: nothing, a word as it stands, or values to be read. -/
inductive Assignment where
  | nothing
  | word (text : Text)
  | values (text : Text)

namespace Assignment

/-- What a text behind a colon says. -/
def behindColon (text : Text) : Assignment :=
  match find? keywords text with
  | some keyword => .word keyword
  | none =>
    if text = [] then .nothing
    else if startsValue text then .values text
    else .word text

/-- What a text says that starts where the first value does. -/
def behindName (text : Text) : Assignment :=
  if text = [] then .nothing else .values text

/-- The declaration of a property. -/
def declare (units : Units) (property : Text) : Assignment → Except ExpandError Declaration
  | .nothing => .ok { property := some property }
  | .word text => .ok { property := some property, value := some text }
  | .values text =>
    (parseValues property units text).map fun value =>
      { property := some property, value := some value }

end Assignment

/-- What a part is taken for. -/
inductive Entry where
  /-- A declaration that is written out. -/
  | whole (text : Text)
  /-- A property by its short name. -/
  | short (property : Text)
  /-- A name that has to be looked up, and what is said of it. -/
  | named (name : Text) (assignment : Assignment)

/-- The declaration of an entry. -/
def Entry.declare (units : Units) (lookup : Lookup) (part : Text) :
    Entry → Except ExpandError Declaration
  | .whole text => .ok (.ofText text)
  | .short property => .ok { property := some property }
  | .named name assignment =>
    match property? lookup name with
    | none => .ok (.unknown part lookup)
    | some property => assignment.declare units property

/-- The entry of a part, by the first table that has it. -/
def entryOf (grammar : Text) (registry : Registry) (part : Text) : Entry :=
  match registry.snippet? grammar part, find? declarations part, find? properties part with
  | some custom, _, _ => .whole custom
  | none, some text, _ => .whole text
  | none, none, some property => .short property
  | none, none, none =>
    match Text.splitOnce ':' part with
    | some (name, value) => .named name (.behindColon value)
    | none => .named (splitName part).1 (.behindName (splitName part).2)

/-! ### Declarations by entries -/

section

variable {lookup : Lookup} (units : Units) (part : Text)

theorem Entry.declare_unknown {name : Text} (h : property? lookup name = none)
    (assignment : Assignment) :
    (Entry.named name assignment).declare units lookup part = .ok (.unknown part lookup) := by
  rw [declare, h]

theorem Entry.declare_found {name property : Text} (h : property? lookup name = some property)
    (assignment : Assignment) :
    (Entry.named name assignment).declare units lookup part
      = assignment.declare units property := by
  rw [declare, h]

theorem withColon_eq (name value : Text) :
    withColon lookup units part name value
      = (Entry.named name (.behindColon value)).declare units lookup part := by
  cases hname : property? lookup name with
  | none => rw [withColon, hname, Entry.declare_unknown units part hname]
  | some property =>
    rw [withColon, hname, Entry.declare_found units part hname, Assignment.behindColon]
    -- The same tests decide which kind of assignment it is and what it declares.
    cases find? keywords value with
    | some keyword => rfl
    | none =>
      simp only
      split
      · rfl
      · split <;> rfl

theorem withoutColon_eq :
    withoutColon lookup units part
      = (Entry.named (splitName part).1 (.behindName (splitName part).2)).declare units lookup
          part := by
  cases hname : property? lookup (splitName part).1 with
  | none => simp only [withoutColon, hname, Entry.declare_unknown units part hname]
  | some property =>
    simp only [withoutColon, hname, Entry.declare_found units part hname, Assignment.behindName]
    split <;> rfl

/-- The declaration of a part is that of its entry. -/
theorem declaration_eq (grammar : Text) (registry : Registry) :
    declaration grammar registry units lookup part
      = (entryOf grammar registry part).declare units lookup part := by
  unfold declaration entryOf
  cases registry.snippet? grammar part with
  | some custom => rfl
  | none =>
    cases find? declarations part with
    | some text => rfl
    | none =>
      cases find? properties part with
      | some property => rfl
      | none =>
        simp only [withColon_eq, withoutColon_eq]
        cases Text.splitOnce ':' part <;> rfl

/-- An empty part is in none of the tables, and its empty name is that of no property. -/
theorem declaration_nil {grammar : Text} {registry : Registry}
    (h : registry.snippet? grammar [] = none) :
    declaration grammar registry units lookup [] = .ok (.unknown [] lookup) := by
  have hentry : entryOf grammar registry [] = .named [] .nothing := by
    rw [entryOf, h]
    rfl
  rw [declaration_eq, hentry]
  exact Entry.declare_unknown units [] rfl .nothing

end

/-! ### The two look-ups -/

/-- Beginnings of names are tried last, so a property that is known exactly is found first. -/
theorem property?_fuzzy {name property : Text} (h : property? .exact name = some property) :
    property? .fuzzy name = some property := by
  unfold property? at h ⊢
  split at h
  · cases h
  · rename_i hne
    rw [if_neg hne]
    split at h
    · exact h
    · split at h
      · rename_i hany
        rw [if_pos hany]
        exact h
      · cases h

/-- A declaration with a property is the same in the fuzzy look-up as in the exact one. -/
theorem Entry.declare_fuzzy {entry : Entry} {units : Units} {part : Text} {d : Declaration}
    (h : entry.declare units .exact part = .ok d) (hproperty : d.property.isSome = true) :
    entry.declare units .fuzzy part = .ok d := by
  cases entry with
  | whole text => exact h
  | short property => exact h
  | named name assignment =>
    cases hname : property? .exact name with
    | none =>
      -- The exact look-up gives an unknown word no property.
      rw [declare_unknown units part hname] at h
      cases h
      cases hproperty
    | some property =>
      rw [declare_found units part hname] at h
      rw [declare_found units part (property?_fuzzy hname)]
      exact h

/-! ### Units -/

/-- Which texts are values does not depend on units. -/
theorem parseValues_units {property text value : Text} {units : Units}
    (h : parseValues property units text = .ok value) (units' : Units) :
    ∃ value', parseValues property units' text = .ok value' := by
  unfold parseValues at h ⊢
  split
  · exact ⟨[], rfl⟩
  · rename_i hne
    rw [if_neg hne] at h
    cases hread : readValues text with
    | error stop =>
      rw [hread] at h
      cases h
    | ok values => exact ⟨_, rfl⟩

/-- Other units change the value of a declaration and nothing else. -/
theorem Entry.declare_units {entry : Entry} {units : Units} {lookup : Lookup} {part : Text}
    {d : Declaration} (h : entry.declare units lookup part = .ok d) (units' : Units) :
    ∃ d', entry.declare units' lookup part = .ok d' ∧ d'.property = d.property ∧
      d'.value.isSome = d.value.isSome := by
  cases entry with
  | whole text => exact ⟨d, h, rfl, rfl⟩
  | short property => exact ⟨d, h, rfl, rfl⟩
  | named name assignment =>
    cases hname : property? lookup name with
    | none =>
      rw [declare_unknown units part hname] at h
      exact ⟨d, (declare_unknown units' part hname assignment).trans h, rfl, rfl⟩
    | some property =>
      rw [declare_found units part hname] at h
      rw [declare_found units' part hname]
      cases assignment with
      | nothing => exact ⟨d, h, rfl, rfl⟩
      | word text => exact ⟨d, h, rfl, rfl⟩
      | values text =>
        rw [Assignment.declare] at h ⊢
        cases hparse : parseValues property units text with
        | error e =>
          rw [hparse] at h
          cases h
        | ok value =>
          rw [hparse] at h
          cases h
          obtain ⟨value', hvalue'⟩ := parseValues_units hparse units'
          rw [hvalue']
          exact ⟨_, rfl, rfl, rfl⟩

end Stylesheet

end Shorthand
