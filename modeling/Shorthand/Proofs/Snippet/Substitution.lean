import Mathlib.Data.List.TakeWhile
import Shorthand.Proofs.Json.Distinct
import Shorthand.Snippet.Variables

/-!
# `Shorthand.Proofs.Snippet.Substitution`: variables are substituted all at once

Variables are put in one after another, and each is looked for in what the ones before it have
made of the source. `substitute_pieces` says that nothing comes of this: the source is read as
`Piece`s once, and each reference is filled from the table (`Piece.filled`), whatever the order
in which the table is visited.

One visit rewrites the pieces and keeps them pieces (`replace_pieces`, `Piece.WellFormed.assign`).
A reference is only found where one is written, because names have no dollar sign and no
braces, and a value without a dollar sign begins no reference with the text around it.
-/

set_option autoImplicit false

namespace Shorthand

namespace Snippet

/-- A piece of a source. -/
inductive Piece where
  | reference (name : Text)
  | literal (text : Text)
  deriving DecidableEq, Repr

namespace Piece

/-- The text of a piece. -/
def spell : Piece → Text
  | .reference name => Snippet.reference name
  | .literal text => text

/-- A name that can stand in a reference. -/
def IsName (name : Text) : Prop :=
  '$' ∉ name ∧ '{' ∉ name ∧ '}' ∉ name

/-- Names have no dollar sign and no braces. Literal text has no beginning of a reference, and
begins none with what follows it. -/
def WellFormed : Piece → Prop
  | .reference name => IsName name
  | .literal text => ¬['$', '{'] <:+: text ∧ text.getLast? ≠ some '$'

instance : DecidablePred IsName := fun _ => inferInstanceAs (Decidable (_ ∧ _ ∧ _))

instance : DecidablePred WellFormed
  | .reference name => inferInstanceAs (Decidable (IsName name))
  | .literal _ => inferInstanceAs (Decidable (¬_ ∧ _ ≠ _))

/-- The text of a piece with variables: the value of a reference that has one. -/
def filled (bindings : Dict Text) : Piece → Text
  | .reference name => (Dict.get? bindings name).getD (Snippet.reference name)
  | .literal text => text

/-- The piece after a visit of one variable. -/
def assign (piece : Piece) (name value : Text) : Piece :=
  match piece with
  | .reference other => if other = name then .literal value else .reference other
  | .literal text => .literal text

end Piece

namespace Piece

theorem WellFormed.tail {c : Char} {text : Text} (h : (literal (c :: text)).WellFormed) :
    (literal text).WellFormed := by
  obtain ⟨hwithin, hlast⟩ := h
  refine ⟨fun hin => hwithin (List.infix_cons hin), ?_⟩
  cases text with
  | nil => simp
  | cons d text => rwa [List.getLast?_cons_cons] at hlast

/-- No reference begins at the first character of literal text. -/
theorem WellFormed.not_isPrefix {c : Char} {text : Text} (h : (literal (c :: text)).WellFormed)
    (name rest : Text) : ¬Snippet.reference name <+: c :: (text ++ rest) := by
  obtain ⟨hwithin, hlast⟩ := h
  rintro ⟨tail, htail⟩
  obtain ⟨rfl, hbehind⟩ : '$' = c ∧ '{' :: (name ++ ['}'] ++ tail) = text ++ rest :=
    List.cons.inj htail
  cases text with
  | nil => exact hlast rfl
  | cons d text =>
    obtain ⟨rfl, -⟩ : '{' = d ∧ name ++ ['}'] ++ tail = text ++ rest :=
      List.cons.inj hbehind
    exact hwithin ⟨[], text, rfl⟩

/-- Text without a dollar sign is literal. -/
theorem wellFormed_literal {text : Text} (h : '$' ∉ text) : (literal text).WellFormed := by
  refine ⟨fun hin => h (hin.subset List.mem_cons_self), fun hlast => ?_⟩
  exact h (List.mem_of_getLast? hlast)

end Piece

/-! ### One variable -/

section

variable {name value : Text}

/-- A match is passed over without being looked at again. -/
theorem replaceFrom_length_append (pattern s rest : Text) :
    Text.replaceFrom pattern value s.length (s ++ rest)
      = Text.replaceFrom pattern value 0 rest := by
  induction s with
  | nil => rfl
  | cons c s ih => rw [List.length_cons, List.cons_append, Text.replaceFrom, ih]

/-- A reference becomes the value of its variable. -/
theorem replaceFrom_reference (rest : Text) :
    Text.replaceFrom (reference name) value 0 (reference name ++ rest)
      = value ++ Text.replaceFrom (reference name) value 0 rest := by
  have hbegins : (reference name).isPrefixOf (reference name ++ rest) = true :=
    List.isPrefixOf_iff_prefix.2 (List.prefix_append _ _)
  generalize hpattern : reference name = pattern at hbegins ⊢
  obtain ⟨c, tail, rfl⟩ : ∃ c tail, pattern = c :: tail := ⟨_, _, hpattern.symm⟩
  rw [List.cons_append, Text.replaceFrom, ← List.cons_append, if_pos hbegins, List.length_cons,
    Nat.add_sub_cancel, replaceFrom_length_append]

/-- A character at which no reference to the variable begins stays. -/
theorem replaceFrom_cons {c : Char} {rest : Text} (h : ¬reference name <+: c :: rest) :
    Text.replaceFrom (reference name) value 0 (c :: rest)
      = c :: Text.replaceFrom (reference name) value 0 rest := by
  rw [Text.replaceFrom, if_neg fun hbegins => h (List.isPrefixOf_iff_prefix.1 hbegins)]

/-- Literal text stays. -/
theorem replaceFrom_literal {text : Text} (h : (Piece.literal text).WellFormed) (rest : Text) :
    Text.replaceFrom (reference name) value 0 (text ++ rest)
      = text ++ Text.replaceFrom (reference name) value 0 rest := by
  induction text with
  | nil => rfl
  | cons c text ih =>
    rw [List.cons_append, replaceFrom_cons (h.not_isPrefix name rest), ih h.tail,
      List.cons_append]

/-- A reference begins with no reference to another variable. -/
theorem eq_of_reference_isPrefix {other rest : Text} (hname : Piece.IsName name)
    (hother : Piece.IsName other) (h : reference name <+: reference other ++ rest) :
    name = other := by
  obtain ⟨tail, htail⟩ := h
  have hcut : name ++ '}' :: tail = other ++ '}' :: rest := by
    simpa [reference] using htail
  have htake (s more : Text) (hs : '}' ∉ s) :
      (s ++ '}' :: more).takeWhile (· != '}') = s := by
    rw [List.takeWhile_append_of_pos (by simpa using fun c hc => ne_of_mem_of_not_mem hc hs)]
    simp
  calc name = (name ++ '}' :: tail).takeWhile (· != '}') := (htake _ _ hname.2.2).symm
    _ = (other ++ '}' :: rest).takeWhile (· != '}') := by rw [hcut]
    _ = other := htake _ _ hother.2.2

/-- A reference to another variable stays. -/
theorem replaceFrom_other {other : Text} (hname : Piece.IsName name)
    (hother : Piece.IsName other) (hne : other ≠ name) (rest : Text) :
    Text.replaceFrom (reference name) value 0 (reference other ++ rest)
      = reference other ++ Text.replaceFrom (reference name) value 0 rest := by
  have hstart : ¬reference name <+: reference other ++ rest := fun hbegins =>
    hne (eq_of_reference_isPrefix hname hother hbegins).symm
  -- Behind its dollar sign the reference is text like any other.
  have hbehind : (Piece.literal ('{' :: (other ++ ['}']))).WellFormed :=
    Piece.wellFormed_literal (by simpa using hother.1)
  have hsplit : reference other = '$' :: ('{' :: (other ++ ['}'])) := rfl
  rw [hsplit, List.cons_append] at hstart ⊢
  rw [replaceFrom_cons hstart, replaceFrom_literal hbehind]
  rfl

/-- One visit fills the references to its variable and leaves all other pieces. -/
theorem replace_pieces (hname : Piece.IsName name) {pieces : List Piece}
    (hpieces : ∀ piece ∈ pieces, piece.WellFormed) :
    Text.replace (reference name) value (pieces.flatMap Piece.spell)
      = (pieces.map fun piece => piece.assign name value).flatMap Piece.spell := by
  unfold Text.replace
  induction pieces with
  | nil => rfl
  | cons piece pieces ih =>
    rw [List.forall_mem_cons] at hpieces
    obtain ⟨hpiece, hpieces⟩ := hpieces
    rw [List.flatMap_cons, List.map_cons, List.flatMap_cons, ← ih hpieces]
    cases piece with
    | literal text => exact replaceFrom_literal hpiece _
    | reference other =>
      by_cases hother : other = name
      · subst hother
        rw [Piece.assign, if_pos rfl]
        exact replaceFrom_reference _
      · rw [Piece.assign, if_neg hother]
        exact replaceFrom_other hname hpiece hother _

end

/-! ### All variables -/

theorem Piece.WellFormed.assign {piece : Piece} (h : piece.WellFormed) (name : Text)
    {value : Text} (hvalue : '$' ∉ value) : (piece.assign name value).WellFormed := by
  cases piece with
  | literal text => exact h
  | reference other =>
    rw [Piece.assign]
    split
    · exact wellFormed_literal hvalue
    · exact h

/-- A piece that a table fills is filled by the first entry for its name. -/
theorem Piece.filled_cons (name value : Text) (rest : Dict Text) (piece : Piece) :
    (piece.assign name value).filled rest = piece.filled ((name, value) :: rest) := by
  cases piece with
  | literal text => rfl
  | reference other =>
    by_cases h : name = other
    · simp [assign, filled, Dict.get?, h]
    · simp [assign, filled, Dict.get?, h, Ne.symm h]

/-- Variables are filled from their table, in the order in which it is visited. -/
theorem substitute_eq_filled {order : Dict Text} {pieces : List Piece}
    (horder : ∀ entry ∈ order, Piece.IsName entry.1 ∧ '$' ∉ entry.2)
    (hpieces : ∀ piece ∈ pieces, piece.WellFormed) :
    substitute order (pieces.flatMap Piece.spell) = pieces.flatMap (Piece.filled order) := by
  induction order generalizing pieces with
  | nil =>
    have hspell : Piece.filled [] = Piece.spell := by
      funext piece
      cases piece <;> rfl
    rw [hspell]
    rfl
  | cons entry order ih =>
    obtain ⟨name, value⟩ := entry
    obtain ⟨⟨hname, hvalue⟩, horder⟩ := List.forall_mem_cons.1 horder
    have hassigned : ∀ piece ∈ pieces.map fun piece => piece.assign name value,
        piece.WellFormed := by
      intro piece hpiece
      obtain ⟨piece, hmem, rfl⟩ := List.mem_map.1 hpiece
      exact (hpieces piece hmem).assign name hvalue
    calc substitute ((name, value) :: order) (pieces.flatMap Piece.spell)
        = substitute order (Text.replace (reference name) value (pieces.flatMap Piece.spell)) :=
          rfl
      _ = substitute order
            ((pieces.map fun piece => piece.assign name value).flatMap Piece.spell) := by
          rw [replace_pieces hname hpieces]
      _ = (pieces.map fun piece => piece.assign name value).flatMap (Piece.filled order) :=
          ih horder hassigned
      _ = pieces.flatMap (Piece.filled ((name, value) :: order)) := by
          rw [List.flatMap_map]
          simp only [Piece.filled_cons]

/-- The value of a name does not depend on the order of a table that has each name once. -/
theorem get?_perm {bindings order : Dict Text} (hkeys : bindings.keys.Nodup)
    (h : order.Perm bindings) (name : Text) :
    Dict.get? order name = Dict.get? bindings name := by
  have horder : order.keys.Nodup := (h.map Prod.fst).nodup_iff.2 hkeys
  ext value
  rw [Dict.get?_eq_some_iff horder, Dict.get?_eq_some_iff hkeys, h.mem_iff]

theorem Piece.filled_perm {bindings order : Dict Text} (hkeys : bindings.keys.Nodup)
    (h : order.Perm bindings) : Piece.filled order = Piece.filled bindings := by
  funext piece
  cases piece with
  | literal text => rfl
  | reference name => rw [filled, filled, get?_perm hkeys h]

/-- The variables of an expansion have each name once. -/
theorem nodup_keys_bindings (registry : Registry) (options : ExpandOptions) :
    (Dict.keys (bindings registry options)).Nodup :=
  Dict.nodup_keys_extend (Dict.nodup_keys_extend (by decide) _) _

/-- In whatever order the variables of a table are visited, each reference becomes the value
that its variable has in the table, and references to other names and literal text stay. -/
theorem substitute_pieces {bindings order : Dict Text} {pieces : List Piece}
    (hkeys : bindings.keys.Nodup)
    (hbindings : ∀ entry ∈ bindings, Piece.IsName entry.1 ∧ '$' ∉ entry.2)
    (hpieces : ∀ piece ∈ pieces, piece.WellFormed) (horder : order.Perm bindings) :
    substitute order (pieces.flatMap Piece.spell) = pieces.flatMap (Piece.filled bindings) := by
  rw [← Piece.filled_perm hkeys horder]
  exact substitute_eq_filled (fun entry hmem => hbindings entry (horder.mem_iff.1 hmem)) hpieces

/-- A price in front of a reference whose value has braces, and a name that no variable has. -/
def pricedSource : List Piece :=
  [.literal "p[title=", .reference "lang", .literal "]\x7b$5 ", .reference "lang",
    .reference "who", .literal "\x7d"]

/-- Variables of which one has a value that would be a reference behind a dollar sign. -/
def bracedOptions : ExpandOptions :=
  { bindings := [("lang", "\x7bcharset\x7d")] }

theorem spell_pricedSource : pricedSource.flatMap Piece.spell
    = "p[title=$\x7blang\x7d]\x7b$5 $\x7blang\x7d$\x7bwho\x7d\x7d".toList := by
  decide

theorem filled_pricedSource : pricedSource.flatMap (Piece.filled (bindings {} bracedOptions))
    = "p[title=\x7bcharset\x7d]\x7b$5 \x7bcharset\x7d$\x7bwho\x7d\x7d".toList := by
  decide

theorem substitute_pieces_pricedSource :
    substitute [("charset", "UTF-8"), ("lang", "\x7bcharset\x7d")]
        "p[title=$\x7blang\x7d]\x7b$5 $\x7blang\x7d$\x7bwho\x7d\x7d"
      = "p[title=\x7bcharset\x7d]\x7b$5 \x7bcharset\x7d$\x7bwho\x7d\x7d".toList := by
  rw [← spell_pricedSource, ← filled_pricedSource]
  exact substitute_pieces (nodup_keys_bindings {} bracedOptions) (by decide)
    (by decide +kernel) (by decide)

end Snippet

end Shorthand
