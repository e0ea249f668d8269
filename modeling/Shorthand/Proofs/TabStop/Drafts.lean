import Mathlib.Data.Nat.Digits.Defs
import Shorthand.TabStop

/-!
# `Shorthand.Proofs.TabStop.Drafts`: texts whose tab stops are numbered in order

A `Draft` is a text with places for tab stops that have no numbers yet. Numbered, its tab stops
are `k + 1`, `k + 2` and so on from left to right, and a draft behind another one goes on where
that one ends (`number_append`).

When no dollar sign stands between the tab stops, a reader of the numbered text finds them and
nothing else. `stopNumbers` looks at every place of a text for a tab stop, and finds the numbers
in order (`stopNumbers_number`). `preview` takes the tab stops out and changes nothing else
(`preview_number`).
-/

set_option autoImplicit false

namespace Shorthand

/-- A text in parts, with `none` for each tab stop. -/
abbrev Draft := List (Option Text)

namespace Draft

/-- How many tab stops a draft has. -/
def stops (draft : Draft) : Nat :=
  draft.count none

/-- The text without its tab stops. -/
def fixed (draft : Draft) : Text :=
  draft.flatMap (Option.getD · [])

/-- The text with its tab stops numbered from `k + 1` on. -/
def number : Nat → Draft → Text
  | _, [] => []
  | k, some text :: rest => text ++ number k rest
  | k, none :: rest => tabStop (k + 1) ++ number (k + 1) rest

/-- A draft without a dollar sign in its fixed parts. -/
def IsPlain (draft : Draft) : Prop :=
  ∀ text, some text ∈ draft → '$' ∉ text

theorem stops_append (draft more : Draft) : (draft ++ more).stops = draft.stops + more.stops :=
  List.count_append

theorem stops_text (text : Text) (draft : Draft) :
    stops (some text :: draft) = stops draft :=
  List.count_cons_of_ne (Option.some_ne_none text)

theorem stops_stop (draft : Draft) : stops (none :: draft) = stops draft + 1 :=
  List.count_cons_self

/-- Tab stops of a draft behind another one are numbered on. -/
theorem number_append (k : Nat) (draft more : Draft) :
    number k (draft ++ more) = number k draft ++ number (k + draft.stops) more := by
  induction draft generalizing k with
  | nil => rfl
  | cons part rest ih =>
    cases part with
    | some text => rw [List.cons_append, number, number, ih, stops_text, List.append_assoc]
    | none =>
      rw [List.cons_append, number, number, ih, stops_stop, List.append_assoc, Nat.add_assoc,
        Nat.add_comm 1]

theorem IsPlain.append {draft more : Draft} (h : draft.IsPlain) (hmore : more.IsPlain) :
    IsPlain (draft ++ more) :=
  fun text hmem => (List.mem_append.1 hmem).elim (h text) (hmore text)

theorem IsPlain.tail {part : Option Text} {draft : Draft} (h : IsPlain (part :: draft)) :
    IsPlain draft :=
  fun text hmem => h text (List.mem_cons_of_mem _ hmem)

end Draft

/-! ### Finding tab stops -/

/-- The number of the tab stop at the start of a text, as it is written. -/
def stopAt? : Text → Option Text
  | '$' :: '{' :: rest =>
    match rest.takeWhile Char.isDigit, rest.dropWhile Char.isDigit with
    | digit :: digits, '}' :: _ => some (digit :: digits)
    | _, _ => none
  | _ => none

/-- The numbers of the tab stops at all places of a text, from left to right. -/
def stopNumbers : Text → List Text
  | [] => []
  | c :: rest => (stopAt? (c :: rest)).toList ++ stopNumbers rest

/-- A tab stop with what follows it. -/
theorem tabStop_append (n : Nat) (rest : Text) :
    tabStop n ++ rest = '$' :: '{' :: (Text.ofNat n ++ '}' :: rest) := by
  simp [tabStop]

/-- The digits of a numeral end before a closing brace. -/
theorem span_ofNat {p : Char → Bool} (hdigit : ∀ c, c.isDigit = true → p c = true)
    (hbrace : p '}' = false) (n : Nat) (rest : Text) :
    (Text.ofNat n ++ '}' :: rest).takeWhile p = Text.ofNat n ∧
      (Text.ofNat n ++ '}' :: rest).dropWhile p = '}' :: rest := by
  have hrun : ∀ c ∈ Text.ofNat n, p c = true :=
    fun c hc => hdigit c (Nat.isDigit_of_mem_toDigits (by decide) (by decide) hc)
  rw [List.takeWhile_append_of_pos hrun, List.dropWhile_append_of_pos hrun,
    List.takeWhile_cons_of_neg (ne_true_of_eq_false hbrace),
    List.dropWhile_cons_of_neg (ne_true_of_eq_false hbrace), List.append_nil]
  exact ⟨rfl, rfl⟩

theorem ofNat_eq_cons (n : Nat) : ∃ digit digits, Text.ofNat n = digit :: digits := by
  have hne : Text.ofNat n ≠ [] := Nat.toDigits_ne_nil
  exact List.exists_cons_of_ne_nil hne

theorem stopAt?_tabStop (n : Nat) (rest : Text) :
    stopAt? (tabStop n ++ rest) = some (Text.ofNat n) := by
  obtain ⟨htake, hdrop⟩ := span_ofNat (p := Char.isDigit) (fun _ => id) (by decide) n rest
  obtain ⟨digit, digits, hcons⟩ := ofNat_eq_cons n
  rw [hcons] at htake hdrop
  rw [tabStop_append, hcons]
  simp only [stopAt?, htake, hdrop]

/-- No tab stop starts in a text without dollar signs. -/
theorem stopNumbers_append {s : Text} (h : '$' ∉ s) (rest : Text) :
    stopNumbers (s ++ rest) = stopNumbers rest := by
  induction s with
  | nil => rfl
  | cons c s ih =>
    rw [List.mem_cons, not_or] at h
    have hnone : stopAt? (c :: (s ++ rest)) = none := by
      unfold stopAt?
      split
      · rename_i heq
        exact absurd (List.cons_eq_cons.1 heq).1.symm h.1
      · rfl
    rw [List.cons_append, stopNumbers, hnone, ih h.2]
    rfl

theorem stopNumbers_tabStop (n : Nat) (rest : Text) :
    stopNumbers (tabStop n ++ rest) = Text.ofNat n :: stopNumbers rest := by
  -- No other tab stop starts inside this one.
  have hafter : '$' ∉ '{' :: (Text.ofNat n ++ ['}']) := by
    intro hmem
    simp only [List.mem_cons, List.mem_append, List.not_mem_nil, or_false] at hmem
    obtain hmem | hmem | hmem := hmem
    · exact absurd hmem (by decide)
    · have hdigit := Nat.isDigit_of_mem_toDigits (by decide) (by decide) hmem
      exact absurd hdigit (by decide)
    · exact absurd hmem (by decide)
  have hstop := stopAt?_tabStop n rest
  have hrest := stopNumbers_append hafter rest
  simp only [List.cons_append, List.append_assoc, List.nil_append] at hrest
  rw [tabStop_append] at hstop ⊢
  rw [stopNumbers, hstop, hrest]
  rfl

/-- The numbers are found in order. -/
theorem stopNumbers_number {draft : Draft} (h : draft.IsPlain) (k : Nat) :
    stopNumbers (draft.number k)
      = (List.range draft.stops).map fun i => Text.ofNat (k + i + 1) := by
  induction draft generalizing k with
  | nil => rfl
  | cons part rest ih =>
    cases part with
    | some text =>
      rw [Draft.number, stopNumbers_append (h text List.mem_cons_self), ih h.tail,
        Draft.stops_text]
    | none =>
      rw [Draft.number, stopNumbers_tabStop, ih h.tail, Draft.stops_stop, List.range_succ_eq_map,
        List.map_cons, List.map_map, Nat.add_zero]
      congr 1
      refine List.map_congr_left fun i _ => ?_
      rw [Function.comp_apply, Nat.succ_eq_add_one, Nat.add_right_comm k 1 i, Nat.add_assoc k]

/-! ### Taking tab stops out -/

/-- Without dollar signs there is nothing to take out. -/
theorem preview_append {s : Text} (h : '$' ∉ s) (rest : Text) :
    preview (s ++ rest) = s ++ preview rest := by
  induction s with
  | nil => rfl
  | cons c s ih =>
    rw [List.mem_cons, not_or] at h
    rw [List.cons_append, preview, ih h.2, List.cons_append]
    rintro tail rfl
    exact absurd rfl h.1

theorem readTabStop?_ofNat (n : Nat) (rest : Text) :
    readTabStop? (Text.ofNat n ++ '}' :: rest) = some ([], rest) := by
  have hdigit : ∀ c : Char, c.isDigit = true → Text.isDecimalDigit c = true := by
    intro c hc
    -- Decimal digits of all scripts count, and among ASCII characters they are the usual ones.
    have hascii : c.toNat < 0x80 := by
      simp only [Char.isDigit, Bool.and_eq_true, decide_eq_true_eq] at hc
      exact Nat.lt_of_le_of_lt hc.2 (by decide)
    rw [Text.isDecimalDigit, if_pos hascii, hc]
  obtain ⟨htake, hdrop⟩ := span_ofNat hdigit (by decide) n rest
  obtain ⟨digit, digits, hcons⟩ := ofNat_eq_cons n
  rw [hcons] at htake hdrop ⊢
  simp only [readTabStop?, htake, hdrop]

theorem preview_tabStop (n : Nat) (rest : Text) : preview (tabStop n ++ rest) = preview rest := by
  rw [tabStop_append, preview]
  split
  · rename_i placeholder after heq
    rw [readTabStop?_ofNat, Option.some.injEq, Prod.mk.injEq] at heq
    rw [← heq.1, ← heq.2, List.nil_append]
  · rename_i heq
    rw [readTabStop?_ofNat] at heq
    cases heq

/-- A preview is the text without its tab stops, and all else as it is. -/
theorem preview_number {draft : Draft} (h : draft.IsPlain) (k : Nat) :
    preview (draft.number k) = draft.fixed := by
  induction draft generalizing k with
  | nil => rw [Draft.number, preview]; rfl
  | cons part rest ih =>
    cases part with
    | some text =>
      rw [Draft.number, preview_append (h text List.mem_cons_self), ih h.tail]
      rfl
    | none =>
      rw [Draft.number, preview_tabStop, ih h.tail]
      rfl

end Shorthand
