import Shorthand.Proofs.Json.Distinct
import Shorthand.Proofs.Stylesheet.Entries
import Shorthand.Proofs.Stylesheet.Parts
import Shorthand.Proofs.Stylesheet.Values

/-!
# `Shorthand.Proofs.Stylesheet.Complete`: declarations without empty sides

Without custom snippets, a part becomes a declaration by one of six ways: as an entry of a table
of declarations or of properties, with a keyword, with a word or with values behind its name, or
as a word that nobody knows. `expand_declares` says what every one of them writes: a property, a
colon, a value, the mark of importance if the part ends in an exclamation mark, and what ends a
declaration in the grammar. The value is never empty.

The property is empty for one part only, the exclamation mark alone. Empty parts are refused, but
before the mark is taken off, and what is left of this part is then an unknown word without
characters (`expand_loneMark`).

`Declaration.Filled` is the statement about one declaration. It holds for the entries of the
tables because it can be computed for each of them, and for values because what is read as values
is some text (`parseValues_ne_nil`).
-/

set_option autoImplicit false

namespace Shorthand

/-- A registry without anything has no snippet. -/
theorem Registry.snippet?_of_isEmpty {registry : Registry} (h : registry.isEmpty = true)
    (grammar name : Text) : registry.snippet? grammar name = none := by
  -- Tables without entries may be there, and none of them has the name.
  have hown (grammar : Text) : registry.ownSnippets grammar = [] := by
    unfold ownSnippets
    cases htable : Dict.get? registry.snippets grammar with
    | none => rfl
    | some table =>
      simp only [isEmpty, Bool.and_eq_true, List.all_eq_true] at h
      exact List.isEmpty_iff.1 (h.1.1 _ (Dict.mem_of_get? htable))
  rw [snippet?, hown, hown]
  rfl

namespace Stylesheet

/-! ### Tables -/

theorem exists_mem_of_find? {table : List (String × String)} {name text : Text}
    (h : find? table name = some text) : ∃ entry ∈ table, entry.2.toList = text := by
  obtain ⟨entry, hentry, htext⟩ := Option.map_eq_some_iff.1 h
  exact ⟨entry, List.mem_of_find?_eq_some hentry, htext⟩

theorem find?_ne_nil {table : List (String × String)} (htable : ∀ entry ∈ table, entry.2 ≠ "")
    {name text : Text} (h : find? table name = some text) : text ≠ [] := by
  obtain ⟨entry, hmem, rfl⟩ := exists_mem_of_find? h
  exact mt String.toList_eq_nil_iff.1 (htable entry hmem)

theorem ne_empty_of_mem_properties : ∀ entry ∈ properties, entry.2 ≠ "" := by decide +kernel

/-- A property has a name, by whichever of its names it was found. -/
theorem property?_ne_nil {lookup : Lookup} {name property : Text}
    (h : property? lookup name = some property) : property ≠ [] := by
  unfold property? at h
  split at h
  · cases h
  · rename_i hname
    split at h
    · rename_i hfind
      cases h
      exact find?_ne_nil ne_empty_of_mem_properties hfind
    · split at h
      · cases h
        exact hname
      · cases lookup with
        | exact => cases h
        | fuzzy =>
          obtain ⟨entry, hentry, rfl⟩ := Option.map_eq_some_iff.1 h
          exact mt String.toList_eq_nil_iff.1
            (ne_empty_of_mem_properties entry (List.mem_of_find?_eq_some hentry))

/-! ### Values -/

theorem Value.toText_ne_nil {value : Value} (h : value.WellFormed) (property : Text)
    (units : Units) : value.toText property units ≠ [] := by
  cases value with
  | color digits =>
    simp only [toText, colorText]
    split
    · decide
    · split <;> exact List.cons_ne_nil _ _
  | number digits unit =>
    obtain ⟨⟨body, hdigits, hne, -⟩, -⟩ := h
    have hdigits : digits ≠ [] := by
      obtain rfl | rfl := hdigits
      · exact hne
      · exact List.cons_ne_nil _ _
    refine List.append_ne_nil_of_left_ne_nil ?_ _
    -- A zero before the point makes the digits longer.
    unfold digitsText
    split
    · exact List.cons_ne_nil _ _
    · exact List.cons_ne_nil _ _
    · exact hdigits

/-- What is read as values is some text. -/
theorem parseValues_ne_nil {property text value : Text} {units : Units} (hne : text ≠ [])
    (h : parseValues property units text = .ok value) : value ≠ [] := by
  rw [parseValues, if_neg hne] at h
  cases hread : readValues text with
  | error stop =>
    rw [hread] at h
    cases h
  | ok values =>
    rw [hread] at h
    cases h
    obtain ⟨r, hr, -, rfl⟩ := exists_reading hread
    have hfirst := Value.toText_ne_nil hr.first property units
    -- The first value is there, with or without others behind it.
    rw [Reading.values, List.map_cons]
    cases r.others.map Next.value with
    | nil => exact hfirst
    | cons next others =>
      rw [List.map_cons, Text.join_cons _ _ (List.cons_ne_nil _ _), List.append_assoc]
      exact List.append_ne_nil_of_left_ne_nil hfirst _

/-! ### Declarations -/

namespace Declaration

/-- A declaration with a property, and without an empty text on either side. -/
def Filled (d : Declaration) : Prop :=
  d.property ≠ none ∧ d.property ≠ some [] ∧ d.value ≠ some []

instance : DecidablePred Filled := fun _ => inferInstanceAs (Decidable (_ ∧ _ ∧ _))

theorem filled_of_property {property : Text} (h : property ≠ []) {value : Option Text}
    (hvalue : value ≠ some []) : Filled { property := some property, value := value } :=
  ⟨Option.some_ne_none _, mt Option.some.inj h, hvalue⟩

end Declaration

/-- What is said of a property is nothing or some text. -/
def Assignment.NotEmpty : Assignment → Prop
  | .nothing => True
  | .word text => text ≠ []
  | .values text => text ≠ []

theorem Assignment.notEmpty_behindColon (text : Text) : (behindColon text).NotEmpty := by
  have hkeywords : ∀ entry ∈ keywords, entry.2 ≠ "" := by decide
  unfold behindColon
  split
  · rename_i hfind
    exact find?_ne_nil hkeywords hfind
  · split
    · trivial
    · split <;> assumption

theorem Assignment.notEmpty_behindName (text : Text) : (behindName text).NotEmpty := by
  unfold behindName
  split
  · trivial
  · assumption

theorem Assignment.filled_declare {assignment : Assignment} (h : assignment.NotEmpty)
    {property : Text} (hproperty : property ≠ []) {units : Units} {d : Declaration}
    (hd : assignment.declare units property = .ok d) : d.Filled := by
  cases assignment with
  | nothing =>
    cases hd
    exact Declaration.filled_of_property hproperty (by simp)
  | word text =>
    cases hd
    exact Declaration.filled_of_property hproperty (mt Option.some.inj h)
  | values text =>
    rw [declare] at hd
    cases hparse : parseValues property units text with
    | error e =>
      rw [hparse] at hd
      cases hd
    | ok value =>
      rw [hparse] at hd
      cases hd
      exact Declaration.filled_of_property hproperty
        (mt Option.some.inj (parseValues_ne_nil h hparse))

/-- An entry that brings no empty text with it. -/
def Entry.NotEmpty : Entry → Prop
  | .whole text => (Declaration.ofText text).Filled
  | .short property => property ≠ []
  | .named _ assignment => assignment.NotEmpty

/-- Without custom snippets, no entry brings an empty text with it. -/
theorem Entry.notEmpty_entryOf {grammar : Text} {registry : Registry}
    (h : registry.isEmpty = true) (part : Text) : (entryOf grammar registry part).NotEmpty := by
  have hwhole : ∀ entry ∈ declarations, (Declaration.ofText entry.2.toList).Filled :=
    by decide +kernel
  rw [entryOf, Registry.snippet?_of_isEmpty h]
  cases hdeclaration : find? declarations part with
  | some text =>
    obtain ⟨entry, hmem, rfl⟩ := exists_mem_of_find? hdeclaration
    exact hwhole entry hmem
  | none =>
    cases hproperty : find? properties part with
    | some property => exact find?_ne_nil ne_empty_of_mem_properties hproperty
    | none =>
      cases Text.splitOnce ':' part with
      | some divided => exact Assignment.notEmpty_behindColon divided.2
      | none => exact Assignment.notEmpty_behindName (splitName part).2

/-- Such an entry has a declaration with both sides, as long as the part itself is not empty. -/
theorem Entry.filled_declare {entry : Entry} (hentry : entry.NotEmpty) {units : Units}
    {part : Text} (hpart : part ≠ []) {d : Declaration}
    (h : entry.declare units .fuzzy part = .ok d) : d.Filled := by
  cases entry with
  | whole text =>
    cases h
    exact hentry
  | short property =>
    cases h
    exact Declaration.filled_of_property hentry (by simp)
  | named name assignment =>
    cases hname : property? .fuzzy name with
    | none =>
      -- A word that nobody knows is its own property.
      rw [declare_unknown units part hname] at h
      cases h
      exact Declaration.filled_of_property hpart (by simp)
    | some property =>
      rw [declare_found units part hname] at h
      exact Assignment.filled_declare hentry (property?_ne_nil hname) h

/-- Without custom snippets, a declaration in an expansion has a property, and no empty value.
Only the declaration of an empty text has an empty property. -/
theorem property_of_declaration {grammar body : Text} {registry : Registry}
    {options : ExpandOptions} {d : Declaration} (hregistry : registry.isEmpty = true)
    (h : declarationIn grammar registry options body = .ok d) :
    ∃ property, d.property = some property ∧ (property = [] ↔ body = []) ∧ d.value ≠ some [] := by
  by_cases hbody : body = []
  · subst hbody
    rw [declarationIn, declaration_nil _ (Registry.snippet?_of_isEmpty hregistry _ _)] at h
    cases h
    exact ⟨[], rfl, by simp, by simp [Declaration.unknown]⟩
  · rw [declarationIn, declaration_eq] at h
    obtain ⟨hnone, hnil, hvalue⟩ :=
      Entry.filled_declare (Entry.notEmpty_entryOf hregistry body) hbody h
    obtain ⟨property, hproperty⟩ := Option.ne_none_iff_exists'.1 hnone
    rw [hproperty] at hnil
    have hne : property ≠ [] := mt (congrArg some) hnil
    exact ⟨property, hproperty, by simp [hne, hbody], hvalue⟩

/-! ### Lines -/

/-- The mark of importance is an exclamation mark at the end. -/
theorem splitImportant_snd (part : Text) :
    (splitImportant part).2 = true ↔ part.getLast? = some '!' := by
  unfold splitImportant Text.stripEnd?
  by_cases hlast : part.getLast? = some '!'
  · simp [hlast]
  · simp [hlast]

/-- Nothing is left of a part if the mark was all there was. -/
theorem splitImportant_fst_eq_nil {part : Text} (h : part ≠ []) :
    (splitImportant part).1 = [] ↔ part = ['!'] := by
  unfold splitImportant Text.stripEnd?
  by_cases hlast : part.getLast? = some '!'
  · rw [if_pos hlast]
    obtain ⟨front, rfl⟩ := List.getLast?_eq_some_iff.1 hlast
    simp
  · rw [if_neg hlast]
    constructor
    · intro hnil
      exact absurd hnil h
    · rintro rfl
      exact absurd rfl hlast

/-- A text that declares a property: the property, a colon, a value that is not empty, the mark of
importance if the part ends in an exclamation mark, and what ends a declaration. -/
structure Declares (terminator part text property value : Text) : Prop where
  value_ne_nil : value ≠ []
  text_eq : text = property ++ ": ".toList ++ value
    ++ (if part.getLast? = some '!' then " !important".toList else []) ++ terminator

/-- The line of a part declares a property, by its own property and value. The property is empty
only if the part is an exclamation mark alone. -/
def LineDeclares (terminator part : Text) (line : Line) : Prop :=
  ∃ property value, line.property = some property ∧ line.value.elim id tabStop = value ∧
    Declares terminator part (line.text terminator) property value ∧
    (property = [] ↔ part = ['!'])

theorem lineDeclares_of_spells {grammar : Text} {registry : Registry} {options : ExpandOptions}
    (hregistry : registry.isEmpty = true) (terminator : Text) {part : Text} {line : Line}
    (h : Spells (declarationIn grammar registry options) part line) :
    LineDeclares terminator part line := by
  obtain ⟨d, n, hd, hline, hvalue⟩ := h.declared
  obtain ⟨property, hproperty, hempty, hfilled⟩ := property_of_declaration hregistry hd
  rw [splitImportant_fst_eq_nil h.ne_nil] at hempty
  refine ⟨property, line.value.elim id tabStop, hline.trans hproperty, rfl, ⟨?_, ?_⟩, hempty⟩
  · rw [hvalue]
    cases hcase : d.value with
    | none => simp [tabStop]
    | some value =>
      rw [hcase] at hfilled
      exact mt (congrArg some) hfilled
  · have himportant : line.important = decide (part.getLast? = some '!') := by
      rw [h.important, Bool.eq_iff_iff, splitImportant_snd, decide_eq_true_iff]
    simp only [Line.text, hline, hproperty, himportant, decide_eq_true_eq]

/-! ### Expansions -/

/-- White space at the ends of an abbreviation does not matter. -/
theorem expand_trim {a : Text} (h : Text.trim a ≠ []) (grammar : Text) (registry : Registry)
    (options : ExpandOptions) :
    expand (Text.trim a) grammar registry options = expand a grammar registry options := by
  rw [expand, expand, Text.trim_eq_self (Text.trimmed_trim h)]

/-- What an expansion writes are the lines of its parts. -/
theorem exists_lines_of_expand {a grammar : Text} {registry : Registry}
    {options : ExpandOptions} {out : Text} (h : expand a grammar registry options = .ok out) :
    ∃ lines, out = written (terminatorOf grammar) lines ∧
      IsLinesOf (declarationIn grammar registry options) (Text.trim a) lines := by
  have hne : Text.trim a ≠ [] := by
    intro hnil
    rw [expand, hnil] at h
    cases h
  rw [← expand_trim hne, expand_trimmed _ _ _ (Text.trimmed_trim hne)] at h
  cases hlines : readLines (declarationIn grammar registry options) 0
      (Text.split '+' (Text.trim a)) with
  | error e =>
    rw [hlines] at h
    cases h
  | ok lines =>
    rw [hlines] at h
    cases h
    exact ⟨lines, rfl, isLinesOf_of_readLines hlines⟩

/-- Without custom snippets, every part of an abbreviation that expands has a line, and the line
declares a property. It has a value, it is important if the part ends in an exclamation mark, and
its property is not empty unless the part is nothing but that mark. -/
theorem expand_declares {a grammar : Text} {registry : Registry} {options : ExpandOptions}
    {out : Text} (hregistry : registry.isEmpty = true)
    (h : expand a grammar registry options = .ok out) :
    ∃ lines, out = written (terminatorOf grammar) lines ∧
      IsLinesOf (declarationIn grammar registry options) (Text.trim a) lines ∧
      List.Forall₂ (LineDeclares (terminatorOf grammar)) (Text.split '+' (Text.trim a)) lines := by
  obtain ⟨lines, hout, hlines⟩ := exists_lines_of_expand h
  exact ⟨lines, hout, hlines,
    hlines.spells.imp fun part line hspells => lineDeclares_of_spells hregistry _ hspells⟩

/-- An unknown word, and a colour with a mark. -/
theorem expand_declares_unknownWord :
    Registry.isEmpty {} = true ∧
    expand " qqq+c#f! " "sass" {} {} = .ok "qqq: $\x7b1\x7d\ncolor: #fff !important" ∧
    ∃ lines, "qqq: $\x7b1\x7d\ncolor: #fff !important".toList = written [] lines ∧
      List.Forall₂ (LineDeclares []) ["qqq".toList, "c#f!".toList] lines := by
  have hempty : Registry.isEmpty {} = true := rfl
  have hexpand : expand " qqq+c#f! " "sass" {} {}
      = .ok "qqq: $\x7b1\x7d\ncolor: #fff !important" := by decide +kernel
  obtain ⟨lines, hout, -, hdeclares⟩ := expand_declares hempty hexpand
  exact ⟨hempty, hexpand, lines, hout, hdeclares⟩

/-- An exclamation mark alone is not an empty part, so it is accepted. What is written for it has
no property: as a declaration it can be read in no other way. -/
theorem expand_loneMark :
    Text.split '+' "!" = ["!".toList] ∧
    expand "!" "css" {} {} = .ok ": $\x7b1\x7d !important;" ∧
    ∀ property value, Declares [';'] "!" ": $\x7b1\x7d !important;" property value →
      property = [] := by
  refine ⟨by decide, by decide +kernel, ?_⟩
  intro property value h
  cases property with
  | nil => rfl
  | cons c rest =>
    -- The first character is a colon, and there is no second one for the end of the property.
    have htext := h.text_eq
    have hc : c = ':' := (List.cons_eq_cons.1 htext).1.symm
    have hcount := congrArg (List.count ':') htext
    rw [hc] at hcount
    simp at hcount

end Stylesheet

end Shorthand
