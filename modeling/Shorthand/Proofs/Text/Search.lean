import Mathlib.Data.List.Infix
import Shorthand.Proofs.Text.Bytes

/-!
# `Shorthand.Proofs.Text.Search`: the first occurrence of a word

A search cuts a text before the first place that passes a test. Mostly the test is that a word
stands there, and `find?` is the offset of this place.

- `breakBefore_word`: a word that cannot overlap with itself (`Unbordered`) is found where it
  was put, if the text before does not hold it;
- `find?_char`, `find?_char_eq_none`: the search for a single character;
- `breakBefore_map`: a search without regard to letter case goes the same way as one through
  the text in lower case.
-/

set_option autoImplicit false

namespace Shorthand

namespace Text

/-! ### Words that were put somewhere -/

/-- No proper ending of the word is also a beginning of it, so that two of its occurrences
never overlap. -/
def Unbordered (w : Text) : Prop :=
  ∀ v ∈ w.tails, v ≠ [] → v <+: w → v = w

instance (w : Text) : Decidable (Unbordered w) :=
  inferInstanceAs (Decidable (∀ v ∈ w.tails, v ≠ [] → v <+: w → v = w))

/-- An occurrence in front of another one ends before the other starts. -/
theorem Unbordered.isPrefix {w u rest : Text} (hw : Unbordered w) (hu : u ≠ [])
    (h : w <+: u ++ (w ++ rest)) : w <+: u := by
  by_cases hlength : w.length ≤ u.length
  · exact List.prefix_of_prefix_length_le h (List.prefix_append u _) hlength
  · -- Otherwise the word ends in a part `v` with which the second occurrence starts.
    have hshort : u.length ≤ w.length := Nat.le_of_not_le hlength
    obtain ⟨v, hv⟩ := List.prefix_of_prefix_length_le (List.prefix_append u _) h hshort
    have hne : v ≠ [] := by
      rintro rfl
      exact hlength (by simp [← hv])
    have hstart : v <+: w ++ rest := by
      rw [← hv, List.append_assoc, List.prefix_append_right_inj] at h
      rwa [← hv, List.append_assoc]
    have hborder : v <+: w :=
      List.prefix_of_prefix_length_le hstart (List.prefix_append w rest) (by simp [← hv])
    have heq := hw v ((List.mem_tails v w).2 ⟨u, hv⟩) hne hborder
    rw [← hv] at heq
    exact absurd (List.self_eq_append_left.1 heq) hu

theorem breakBefore_append {test : Text → Bool} {body rest : Text}
    (hbody : ∀ u, u ≠ [] → u <:+ body → test (u ++ rest) = false) (hrest : test rest = true) :
    breakBefore test (body ++ rest) = (body, some rest) := by
  induction body with
  | nil => cases rest <;> simp [breakBefore, hrest]
  | cons c body ih =>
    have hc := hbody (c :: body) (List.cons_ne_nil c body) (List.suffix_refl _)
    have hbelow := ih fun u hu hsuffix => hbody u hu (hsuffix.trans (List.suffix_cons c body))
    rw [List.cons_append] at hc ⊢
    rw [breakBefore, hc, if_neg Bool.false_ne_true, hbelow]

/-- A search for a word, up to a change of characters, stops where the word was put. -/
theorem breakBefore_word {test : Text → Bool} {f : Char → Char} {w body rest : Text}
    (htest : ∀ t, test t = true ↔ w <+: t.map f) (hw : Unbordered w)
    (hbody : ¬w <:+: body.map f) (hrest : w <+: rest.map f) :
    breakBefore test (body ++ rest) = (body, some rest) := by
  -- An ending of the body cannot start the word together with what follows.
  refine breakBefore_append (fun u hu hsuffix => ?_) ((htest rest).2 hrest)
  obtain ⟨more, hmore⟩ := hrest
  rw [Bool.eq_false_iff, Ne, htest, List.map_append, ← hmore]
  intro hprefix
  have hinside := hw.isPrefix (by simpa using hu) hprefix
  exact hbody (hinside.isInfix.trans (hsuffix.map f).isInfix)

/-! ### Results of a search -/

/-- The offset of the first occurrence of a word. -/
def find? (w t : Text) : Option Nat :=
  match breakBefore (startsWith · w) t with
  | (before, some _) => some (utf8Size before)
  | (_, none) => none

theorem startsWith_singleton (t : Text) (c : Char) :
    startsWith t [c] = true ↔ t.head? = some c := by
  rw [startsWith, List.isPrefixOf_iff_prefix, List.head?_eq_some_iff]
  exact exists_congr fun rest => eq_comm

theorem test_of_breakBefore {test : Text → Bool} {s before rest : Text}
    (h : breakBefore test s = (before, some rest)) : test rest = true := by
  induction s generalizing before with
  | nil =>
    rw [breakBefore] at h
    split at h <;> simp_all
  | cons c s ih =>
    rw [breakBefore] at h
    split at h
    · obtain ⟨-, h⟩ := Prod.mk.inj h
      obtain rfl := Option.some.inj h
      assumption
    · obtain ⟨-, h⟩ := Prod.mk.inj h
      exact ih (Prod.ext rfl h)

theorem find?_char {c : Char} {plain : Text} (h : c ∉ plain) (rest : Text) :
    find? [c] (plain ++ c :: rest) = some (utf8Size plain) := by
  have hbreak :
      breakBefore (startsWith · [c]) (plain ++ c :: rest) = (plain, some (c :: rest)) := by
    refine breakBefore_append (fun u hu hsuffix => ?_) ((startsWith_singleton _ c).2 rfl)
    obtain ⟨x, tail, rfl⟩ := List.exists_cons_of_ne_nil hu
    have hx : x ∈ plain := hsuffix.subset List.mem_cons_self
    rw [Bool.eq_false_iff, Ne, startsWith_singleton]
    rintro ⟨⟩
    exact h hx
  rw [find?, hbreak]

theorem find?_char_eq_none {c : Char} {plain : Text} (h : c ∉ plain) : find? [c] plain = none := by
  have hbreak : breakBefore (startsWith · [c]) plain = (plain, none) := by
    induction plain with
    | nil => rfl
    | cons x plain ih =>
      rw [List.mem_cons, not_or] at h
      obtain ⟨hx, hplain⟩ := h
      have hstarts : startsWith (x :: plain) [c] = false := by
        rw [Bool.eq_false_iff, Ne, startsWith_singleton]
        rintro ⟨⟩
        exact hx rfl
      rw [breakBefore, hstarts, if_neg Bool.false_ne_true, ih hplain]
  rw [find?, hbreak]

/-- A search goes the same way through a text that is changed character by character. -/
theorem breakBefore_map {f : Char → Char} {test test' : Text → Bool}
    (h : ∀ t, test (t.map f) = test' t) (s : Text) :
    breakBefore test (s.map f)
      = ((breakBefore test' s).1.map f, (breakBefore test' s).2.map (List.map f)) := by
  induction s with
  | nil =>
    have hnil : test [] = test' [] := h []
    rw [List.map_nil, breakBefore, breakBefore, hnil]
    cases test' [] <;> rfl
  | cons c s ih =>
    have hcons : test (f c :: s.map f) = test' (c :: s) := h (c :: s)
    rw [List.map_cons, breakBefore, breakBefore, hcons, ih]
    cases test' (c :: s) <;> rfl

theorem startsWith_toLower (w t : Text) :
    startsWith (toLower t) w = (toLower (t.take w.length) == w) := by
  rw [Bool.eq_iff_iff, startsWith, List.isPrefixOf_iff_prefix, List.prefix_iff_eq_take, beq_iff_eq,
    toLower, toLower, List.map_take, eq_comm]

/-- The two cases of a letter are one byte each. -/
theorem utf8Size_charToLower (c : Char) : c.toLower.utf8Size = c.utf8Size := by
  unfold Char.toLower
  split
  · rename_i hupper
    have hle : c.toNat ≤ 90 := UInt32.le_iff_toNat_le.1 hupper.2
    have hlower : (c.val + ('a'.val - 'A'.val)).toNat < 0x80 := by
      rw [UInt32.toNat_add]
      show (c.toNat + 32) % 2 ^ 32 < 0x80
      omega
    rw [utf8Size_of_lt (c := c) (by omega)]
    exact utf8Size_of_lt hlower
  · rfl

theorem utf8Size_toLower (t : Text) : utf8Size (toLower t) = utf8Size t := by
  induction t with
  | nil => rfl
  | cons c rest ih =>
    show utf8Size (c.toLower :: toLower rest) = _
    rw [utf8Size, utf8Size, utf8Size_charToLower, ih]

end Text

end Shorthand
