import Mathlib.Data.Nat.Digits.Defs
import Shorthand.Markup.Counter

/-!
# `Shorthand.Proofs.Markup.Numbering`: what numbering leaves as it is

A counter changes a text in two ways: a run of dollar signs becomes a number, and a dollar sign
behind a backslash loses the backslash. A dollar sign before a brace starts a tab stop and
stays. `hasNoToken` says of a text that it has dollar signs of the last kind only, and
`number_eq_self_iff` that these are the texts which numbering keeps, for each counter.

`number` gets one equation for each way in which a text can start, so that no later proof has
to open it.
-/

set_option autoImplicit false

namespace Shorthand

namespace Counter

/-! ### Numbers in place of tokens -/

theorem isDigit_of_mem_padded {c : Char} {width n : Nat} (h : c ∈ Text.padded width n) :
    c.isDigit = true := by
  rw [Text.padded, List.mem_append] at h
  obtain hzero | hdigit := h
  · rw [(List.mem_replicate.1 hzero).2]
    decide
  · exact Nat.isDigit_of_mem_toDigits (by decide) (by decide) hdigit

theorem padded_ne_nil (width n : Nat) : Text.padded width n ≠ [] := by
  rw [Text.padded]
  exact List.append_ne_nil_of_right_ne_nil _ Nat.toDigits_ne_nil

/-- A number is written with at least one digit. -/
theorem padded_eq_cons (width n : Nat) :
    ∃ d rest, d.isDigit = true ∧ Text.padded width n = d :: rest := by
  obtain ⟨d, rest, hcons⟩ := List.exists_cons_of_ne_nil (padded_ne_nil width n)
  have hmem : d ∈ Text.padded width n := by
    rw [hcons]
    exact List.mem_cons_self
  exact ⟨d, rest, isDigit_of_mem_padded hmem, hcons⟩

/-! ### One step of numbering -/

section

variable (counter : Counter)

@[simp]
theorem number_nil : counter.number [] = [] := by
  rw [number]

theorem number_escaped (rest : Text) :
    counter.number ('\\' :: '$' :: rest) = '$' :: counter.number rest := by
  rw [number]

theorem number_tabStop (rest : Text) :
    counter.number ('$' :: '{' :: rest) = '$' :: '{' :: counter.number rest := by
  rw [number]

theorem number_token {rest : Text} (h : rest.head? ≠ some '{') :
    counter.number ('$' :: rest)
      = Text.padded ((rest.takeWhile (· == '$')).length + 1)
          (counter.value (readModifier (rest.dropWhile (· == '$'))).1
            (readModifier (rest.dropWhile (· == '$'))).2.1)
        ++ counter.number (readModifier (rest.dropWhile (· == '$'))).2.2 := by
  rw [number]
  rintro tail rfl
  exact h rfl

theorem number_other {c : Char} {rest : Text} (hc : c ≠ '$')
    (hrest : c = '\\' → rest.head? ≠ some '$') :
    counter.number (c :: rest) = c :: counter.number rest := by
  rw [number]
  · rintro tail rfl rfl
    exact hrest rfl rfl
  · rintro tail rfl
    exact absurd rfl hc
  · rintro rfl
    exact hc rfl

end

/-! ### Texts that stay -/

/-- A text without counter tokens: each dollar sign starts a tab stop, and none stands behind
a backslash. -/
def hasNoToken : Text → Bool
  | [] => true
  | '\\' :: '$' :: _ => false
  | '$' :: '{' :: rest => hasNoToken rest
  | '$' :: _ => false
  | _ :: rest => hasNoToken rest

theorem hasNoToken_of_notMem {s : Text} (h : '$' ∉ s) : hasNoToken s = true := by
  fun_induction hasNoToken s with
  | case1 => rfl
  | case2 rest => simp at h
  | case3 rest ih => simp at h
  | case4 rest => simp at h
  | case5 c rest _ _ _ ih => exact ih fun hmem => h (List.mem_cons_of_mem c hmem)

/-- Numbering keeps a text if and only if the text has no counter tokens. Where it has one, the
first character of that token is replaced by another. -/
theorem number_eq_self_iff (counter : Counter) (s : Text) :
    counter.number s = s ↔ hasNoToken s = true := by
  fun_induction hasNoToken s with
  | case1 => simp
  | case2 rest =>
    rw [number_escaped]
    simp
  | case3 rest ih =>
    rw [number_tabStop]
    simpa using ih
  | case4 rest hrest =>
    -- A digit takes the place of the dollar sign, so the texts differ in their first character.
    obtain ⟨d, more, hd, hpadded⟩ := padded_eq_cons ((rest.takeWhile (· == '$')).length + 1)
      (counter.value (readModifier (rest.dropWhile (· == '$'))).1
        (readModifier (rest.dropWhile (· == '$'))).2.1)
    have hne : d ≠ '$' := by
      rintro rfl
      exact absurd hd (by decide)
    rw [number_token counter (fun hhead => ?_), hpadded]
    · simp [hne]
    · obtain ⟨tail, htail⟩ := List.head?_eq_some_iff.1 hhead
      exact hrest tail htail
  | case5 c rest hescaped htab hdollar ih =>
    have hother : counter.number (c :: rest) = c :: counter.number rest := by
      refine number_other counter (fun hc => ?_) fun hc hhead => ?_
      · exact hdollar hc
      · obtain ⟨tail, htail⟩ := List.head?_eq_some_iff.1 hhead
        exact hescaped tail hc htail
    rw [hother]
    simpa using ih

theorem number_of_notMem (counter : Counter) {s : Text} (h : '$' ∉ s) : counter.number s = s :=
  (number_eq_self_iff counter s).2 (hasNoToken_of_notMem h)

end Counter

end Shorthand
