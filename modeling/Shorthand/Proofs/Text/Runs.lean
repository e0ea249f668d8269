import Mathlib.Data.List.TakeWhile
import Shorthand.Text.Blank
import Shorthand.Text.Numeral

/-!
# `Shorthand.Proofs.Text.Runs`: runs of one class of characters

A reader of a run of characters stops before the first that is not its own, and more text
behind that does not change what it read (`takeWhile_append_of_settles`,
`dropWhile_append_of_settles`). Trimming is two such runs, of white space: it leaves a text
with none at its ends (`trimmed_trim`), and such a text as it is (`trim_eq_self`).

White space is 25 scalar values, so a class of characters is kept apart from it by looking
those up (`isBlank_of_class`).
-/

set_option autoImplicit false

namespace Shorthand

namespace Text

/-! ### Runs of characters -/

/-- The run of `p` at the start of `s` is the same with `t` behind `s`: it ends inside `s`,
or `t` does not go on with it. -/
def Settles (p : Char → Bool) (s t : Text) : Prop :=
  s.dropWhile p ≠ [] ∨ ∀ c ∈ t.head?, p c = false

theorem takeWhile_append_of_settles {p : Char → Bool} {s t : Text} (h : Settles p s t) :
    (s ++ t).takeWhile p = s.takeWhile p := by
  induction s with
  | nil =>
    cases t with
    | nil => rfl
    | cons c rest =>
      have hc : p c = false := by simpa [Settles] using h
      simp [hc]
  | cons c rest ih =>
    -- Inside `s` the two runs go on or end together.
    rw [List.cons_append, List.takeWhile_cons, List.takeWhile_cons]
    cases hc : p c with
    | false => rfl
    | true => rw [if_pos rfl, if_pos rfl, ih (by simpa [Settles, hc] using h)]

theorem dropWhile_append_of_settles {p : Char → Bool} {s t : Text} (h : Settles p s t) :
    (s ++ t).dropWhile p = s.dropWhile p ++ t := by
  have hs := List.takeWhile_append_dropWhile (p := p) (l := s)
  have hst := List.takeWhile_append_dropWhile (p := p) (l := s ++ t)
  -- Both texts start with the same run, so what is left of them differs by `t`.
  rw [takeWhile_append_of_settles h] at hst
  have hsplit : s.takeWhile p ++ (s ++ t).dropWhile p
      = s.takeWhile p ++ (s.dropWhile p ++ t) := by
    rw [hst, ← List.append_assoc, hs]
  exact List.append_cancel_left hsplit

/-- A whole text of `p` is its own run. -/
theorem takeWhile_append_run {p : Char → Bool} {s t : Text} (hs : ∀ c ∈ s, p c = true)
    (ht : ∀ c ∈ t.head?, p c = false) : (s ++ t).takeWhile p = s := by
  rw [takeWhile_append_of_settles (Or.inr ht), List.takeWhile_eq_self_iff.2 hs]

theorem dropWhile_append_run {p : Char → Bool} {s t : Text} (hs : ∀ c ∈ s, p c = true)
    (ht : ∀ c ∈ t.head?, p c = false) : (s ++ t).dropWhile p = t := by
  rw [dropWhile_append_of_settles (Or.inr ht), List.dropWhile_eq_nil_iff.2 hs, List.nil_append]

/-! ### White space -/

/-- A text that is not empty and has no white space at its ends. -/
structure Trimmed (s : Text) : Prop where
  ne_nil : s ≠ []
  head : ∀ c ∈ s.head?, isBlank c = false
  last : ∀ c ∈ s.getLast?, isBlank c = false

theorem trimmed_of_ends {s : Text} {first last : Char} (hhead : s.head? = some first)
    (hfirst : isBlank first = false) (hend : s.getLast? = some last)
    (hlast : isBlank last = false) : Trimmed s := by
  refine ⟨?_, ?_, ?_⟩
  · rintro rfl
    cases hhead
  · intro c hc
    obtain rfl : first = c := Option.some.inj (hhead.symm.trans hc)
    exact hfirst
  · intro c hc
    obtain rfl : last = c := Option.some.inj (hend.symm.trans hc)
    exact hlast

/-- A text that starts and ends with no white space keeps all of itself when it is
trimmed, and what follows it is trimmed at its end. -/
theorem trim_append {s : Text} (h : Trimmed s) (t : Text) :
    trim (s ++ t) = s ++ trimEnd t := by
  obtain ⟨first, rest, rfl⟩ := List.exists_cons_of_ne_nil h.ne_nil
  have hfirst : isBlank first = false := h.head first rfl
  have hstart : trimStart (first :: rest ++ t) = first :: rest ++ t :=
    List.dropWhile_cons_of_neg (by simp [hfirst])
  -- From the right, the run of white space is over where `s` ends.
  have hend : (first :: rest).reverse.dropWhile isBlank = (first :: rest).reverse := by
    cases hrev : (first :: rest).reverse with
    | nil => rfl
    | cons last tail =>
      refine List.dropWhile_cons_of_neg ?_
      rw [h.last last (by rw [← List.head?_reverse, hrev]; rfl)]
      decide
  rw [trim, hstart, trimEnd, trimEnd, trimEndWhile, trimEndWhile,
    List.reverse_append, List.dropWhile_append, hend]
  split
  · rename_i hempty
    rw [List.isEmpty_iff.1 hempty]
    simp
  · simp

theorem trim_eq_self {s : Text} (h : Trimmed s) : trim s = s := by
  have happend := trim_append h []
  rwa [List.append_nil, trimEnd, trimEndWhile, List.reverse_nil, List.dropWhile_nil,
    List.reverse_nil, List.append_nil] at happend

theorem isBlank_of_head?_dropWhile {s : Text} {c : Char}
    (h : (s.dropWhile isBlank).head? = some c) : isBlank c = false := by
  have hnot := List.head?_dropWhile_not isBlank s
  rw [h] at hnot
  exact hnot

/-- What trimming leaves has no white space at its ends. -/
theorem trimmed_trim {s : Text} (h : trim s ≠ []) : Trimmed (trim s) where
  ne_nil := h
  head c hc := by
    -- The end that is cut off does not reach the first character.
    have hstart : trim s <+: s.dropWhile isBlank := by
      rw [← List.reverse_suffix, trim, trimEnd, trimEndWhile, List.reverse_reverse]
      exact List.dropWhile_suffix _
    obtain ⟨tail, htail⟩ := hstart
    refine isBlank_of_head?_dropWhile (s := s) ?_
    rw [← htail, List.head?_append, Option.mem_def.1 hc, Option.some_or]
  last c hc := by
    rw [trim, trimEnd, trimEndWhile, List.getLast?_reverse] at hc
    exact isBlank_of_head?_dropWhile hc

/-- The scalar values of white space, one by one. -/
def blankCodes : List Nat :=
  [0x09, 0x0A, 0x0B, 0x0C, 0x0D, 0x20, 0x85, 0xA0, 0x1680, 0x2000, 0x2001, 0x2002, 0x2003,
    0x2004, 0x2005, 0x2006, 0x2007, 0x2008, 0x2009, 0x200A, 0x2028, 0x2029, 0x202F, 0x205F,
    0x3000]

theorem toNat_mem_blankCodes {c : Char} (h : isBlank c = true) : c.toNat ∈ blankCodes := by
  simp only [isBlank, Bool.or_eq_true, Bool.and_eq_true, decide_eq_true_eq,
    beq_iff_eq, or_assoc] at h
  simp only [blankCodes, List.mem_cons, List.not_mem_nil, or_false]
  rcases h with h | h | h | h | h | h | h | h | h | h | h <;> omega

/-- A class that holds none of the scalar values of white space holds no white space. -/
theorem isBlank_of_class {p : Char → Bool} (hp : ∀ n ∈ blankCodes, p (Char.ofNat n) = false)
    {c : Char} (h : p c = true) : isBlank c = false := by
  by_contra hblank
  have hclass := hp _ (toNat_mem_blankCodes (Bool.of_not_eq_false hblank))
  rw [Char.ofNat_toNat, h] at hclass
  cases hclass

theorem isBlank_of_isDigit {c : Char} (h : isDigit c = true) : isBlank c = false :=
  isBlank_of_class (by decide) h

end Text

end Shorthand
