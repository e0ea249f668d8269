import Mathlib.Data.List.Basic
import Shorthand.Text.Basic

/-!
# `Shorthand.Proofs.Text.Pieces`: cutting at a separator and joining again

`split` cuts a text at each separator, and `join` puts separators between texts. On pieces that
have no separator of their own, cutting undoes joining (`split_join`). Both go along with
concatenation: a separator ends the pieces before it (`split_append`), and joined texts are
joined by one more separator (`join_append`).
-/

set_option autoImplicit false

namespace Shorthand

namespace Text

variable {sep : Char}

theorem split_ne_nil (sep : Char) (t : Text) : split sep t ≠ [] := by
  fun_cases split sep t <;> simp_all

/-- A separator ends the pieces before it. -/
theorem split_append (sep : Char) (s t : Text) :
    split sep (s ++ sep :: t) = split sep s ++ split sep t := by
  induction s with
  | nil => simp [split]
  | cons c s ih =>
    rw [List.cons_append, split, split, ih]
    by_cases hc : c = sep
    · rw [if_pos hc, if_pos hc, List.cons_append]
    · obtain ⟨piece, pieces, hpieces⟩ := List.exists_cons_of_ne_nil (split_ne_nil sep s)
      rw [if_neg hc, if_neg hc, hpieces]
      rfl

/-- Without a separator a text is its one piece. -/
theorem split_of_notMem {t : Text} (h : sep ∉ t) : split sep t = [t] := by
  induction t with
  | nil => rfl
  | cons c t ih =>
    rw [List.mem_cons, not_or] at h
    rw [split, if_neg (Ne.symm h.1), ih h.2]

/-- No piece has a separator of its own. -/
theorem notMem_of_mem_split {t piece : Text} (h : piece ∈ split sep t) : sep ∉ piece := by
  induction t generalizing piece with
  | nil =>
    rw [split, List.mem_singleton] at h
    rw [h]
    exact List.not_mem_nil
  | cons c t ih =>
    rw [split] at h
    split at h
    · obtain rfl | hrest := List.mem_cons.1 h
      · exact List.not_mem_nil
      · exact ih hrest
    · rename_i hc
      obtain ⟨first, pieces, hpieces⟩ := List.exists_cons_of_ne_nil (split_ne_nil sep t)
      rw [hpieces] at h ih
      obtain rfl | hrest := List.mem_cons.1 h
      · exact List.not_mem_cons_of_ne_of_not_mem (Ne.symm hc) (ih List.mem_cons_self)
      · exact ih (List.mem_cons_of_mem _ hrest)

theorem join_cons (separator first : Text) {pieces : List Text} (h : pieces ≠ []) :
    join separator (first :: pieces) = first ++ separator ++ join separator pieces := by
  obtain ⟨next, rest, rfl⟩ := List.exists_cons_of_ne_nil h
  rfl

theorem join_append (sep : Text) {ss ts : List Text} (hs : ss ≠ []) (ht : ts ≠ []) :
    join sep (ss ++ ts) = join sep ss ++ sep ++ join sep ts := by
  induction ss with
  | nil => exact absurd rfl hs
  | cons s ss ih =>
    cases ss with
    | nil => rw [List.singleton_append, join_cons sep s ht]; rfl
    | cons next ss =>
      have hne : next :: ss ++ ts ≠ [] := List.cons_ne_nil _ _
      rw [List.cons_append, join_cons sep s hne, ih (List.cons_ne_nil _ _),
        join_cons sep s (List.cons_ne_nil _ _)]
      simp only [List.append_assoc]

/-- Pieces that were joined are cut apart again. -/
theorem split_join {pieces : List Text} (hne : pieces ≠ []) (h : ∀ piece ∈ pieces, sep ∉ piece) :
    split sep (join [sep] pieces) = pieces := by
  induction pieces with
  | nil => exact absurd rfl hne
  | cons first pieces ih =>
    have hfirst : split sep first = [first] := split_of_notMem (h first List.mem_cons_self)
    by_cases hrest : pieces = []
    · rw [hrest]
      exact hfirst
    · rw [join_cons _ _ hrest, List.append_assoc, List.singleton_append, split_append, hfirst,
        ih hrest fun piece hpiece => h piece (List.mem_cons_of_mem _ hpiece)]
      rfl

end Text

end Shorthand
