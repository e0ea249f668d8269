import Shorthand.Text.Number
import Shorthand.Text.Numeral

/-!
# `Shorthand.TabStop`: places for the cursor

A tab stop is a number in braces behind a dollar sign, and it may have placeholder
text behind a colon. Editors show an expansion without its tab stops, which is
what `preview` gives: placeholders stay and all else of a tab stop goes.
-/

set_option autoImplicit false

namespace Shorthand

/-- The tab stop of a number. -/
def tabStop (n : Nat) : Text :=
  "$\x7b".toList ++ Text.ofNat n ++ "\x7d".toList

/-- A tab stop at the start of a text, from after its dollar sign and brace: the
placeholder and the text behind. Its number may be in digits of any script. -/
def readTabStop? (s : Text) : Option (Text × Text) :=
  match s.takeWhile Text.isDecimalDigit, s.dropWhile Text.isDecimalDigit with
  | [], _ => none
  | _ :: _, '}' :: rest => some ([], rest)
  | _ :: _, ':' :: rest =>
    match rest.dropWhile (· != '}') with
    | [] => none
    | _ :: after => some (rest.takeWhile (· != '}'), after)
  | _ :: _, _ => none

theorem readTabStop?_length {s placeholder rest : Text}
    (h : readTabStop? s = some (placeholder, rest)) : rest.length < s.length := by
  have h1 : (s.dropWhile Text.isDecimalDigit).length ≤ s.length :=
    (List.dropWhile_suffix _).length_le
  unfold readTabStop? at h
  split at h
  · simp at h
  · rename_i hd
    simp only [Option.some.injEq, Prod.mk.injEq] at h
    simp only [hd, List.length_cons] at h1
    rw [← h.2]; omega
  · rename_i rest' _ hd
    have h2 : (rest'.dropWhile (· != '}')).length ≤ rest'.length :=
      (List.dropWhile_suffix _).length_le
    simp only [hd, List.length_cons] at h1
    split at h
    · simp at h
    · rename_i after hr
      simp only [Option.some.injEq, Prod.mk.injEq] at h
      simp only [hr, List.length_cons] at h2
      rw [← h.2]; omega
  · simp at h

/-- The text with its tab stops taken out and their placeholders kept. -/
def preview (s : Text) : Text :=
  match s with
  | '$' :: '{' :: rest =>
    match _h : readTabStop? rest with
    | some (placeholder, after) => placeholder ++ preview after
    | none => '$' :: preview ('{' :: rest)
  | c :: rest => c :: preview rest
  | [] => []
termination_by s.length
decreasing_by
  · have := readTabStop?_length _h
    simp; omega
  · simp
  · simp

end Shorthand
