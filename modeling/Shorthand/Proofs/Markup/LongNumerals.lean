import Mathlib.Data.Bool.AllAny
import Mathlib.Order.Monotone.Defs
import Shorthand.Proofs.Markup.CounterTokens

/-!
# `Shorthand.Proofs.Markup.LongNumerals`: repeats and bases from numerals of any length

The digits of a repeat and of a counter base are read without a bound on their length, and what
they stand for is clamped: a repeat into `1 … maxRepeat`, a base to what a 64-bit word holds.
`numeral_clamped_iff` says where that is so. The digits go through a 64-bit word first, and a
value that no word holds is taken for a missing numeral, which counts as one. Below `2 ^ 64` both
are clamped. From there on both are one, so neither grows with the value
(`one_of_wordMax_succ`).
-/

set_option autoImplicit false

namespace Shorthand

open Abbreviation

namespace Markup

/-- The repeat that a value is clamped to. -/
def clampedRepeat (value : Nat) : Nat :=
  max 1 (min value 1000)

/-- The base that a value is clamped to. -/
def clampedBase (value : Nat) : Nat :=
  min value (2 ^ 64 - 1)

/-- A list item with a repeat, as it is read. -/
def listItem (count : Nat) : Node :=
  .element { name := some "li", count := some count } []

theorem monotone_clampedRepeat : Monotone clampedRepeat := by
  intro m n h
  show max 1 (min m 1000) ≤ max 1 (min n 1000)
  omega

theorem monotone_clampedBase : Monotone clampedBase := by
  intro m n h
  show min m (2 ^ 64 - 1) ≤ min n (2 ^ 64 - 1)
  omega

/-- A numeral is read into a word, and one beyond all words is read like no numeral. -/
theorem getD_readWord {digits : Text} (h : digits ≠ []) :
    (Text.readWord digits).getD 1
      = if Text.digitsValue digits < 2 ^ 64 then Text.digitsValue digits else 1 := by
  have hword : Text.digitsValue digits ≤ wordMax ↔ Text.digitsValue digits < 2 ^ 64 :=
    Nat.lt_succ_iff.symm
  rw [Text.readWord, if_neg h]
  by_cases hlt : Text.digitsValue digits < 2 ^ 64
  · rw [if_pos hlt, if_pos (hword.2 hlt)]
    rfl
  · rw [if_neg hlt, if_neg (mt hword.1 hlt)]
    rfl

/-- A numeral of one digit or more is written without zeros in front. -/
theorem padded_one (n : Nat) : Text.padded 1 n = Text.ofNat n := by
  have hlength : 1 ≤ (Text.ofNat n).length := List.length_pos_iff.2 Nat.toDigits_ne_nil
  rw [Text.padded, Nat.sub_eq_zero_of_le hlength]
  rfl

section

variable {digits : Text} (hdigits : ∀ c ∈ digits, Text.isDigit c = true)
include hdigits

/-- All digits behind the asterisk belong to the repeat. -/
theorem parse_listItem : parse ("li*".toList ++ digits) = .ok [listItem (repeatCount digits)] := by
  have hname : ∀ c ∈ "li".toList, isNameChar c = true := List.all_eq_true.1 (by decide)
  have hstops : ∀ c ∈ ('*' :: digits).head?, isNameChar c = false := by
    rintro c ⟨⟩
    decide
  have hitem : ∀ c ∈ "li*".toList, Text.isBlank c = false :=
    List.all_iff_forall_prop.1 (by decide)
  have hblank : ∀ c ∈ "li*".toList ++ digits, Text.isBlank c = false := by
    intro c hc
    obtain hc | hc := List.mem_append.1 hc
    · exact hitem c hc
    · exact Text.isBlank_of_isDigit (hdigits c hc)
  have htrimmed : Text.Trimmed ("li*".toList ++ digits) :=
    ⟨by simp, fun c hc => hblank c (List.mem_of_head? hc),
      fun c hc => hblank c (List.mem_of_getLast? hc)⟩
  have hcount : readCount digits = (repeatCount digits, []) := by
    rw [readCount, List.takeWhile_eq_self_iff.2 hdigits, List.dropWhile_eq_nil_iff.2 hdigits]
  have helement : readElement ("li*".toList ++ digits)
      = .ok ({ name := some "li", count := some (repeatCount digits) }, []) :=
    calc readElement ("li".toList ++ '*' :: digits)
      _ = readParts { name := some "li" } ('*' :: digits) := by
        rw [readElement_named (by decide) (Text.takeWhile_append_run hname hstops),
          Text.dropWhile_append_run hname hstops]
      _ = readParts { name := some "li", count := some (repeatCount digits) } [] := by
        rw [readParts_count rfl, hcount]
      _ = .ok ({ name := some "li", count := some (repeatCount digits) }, []) :=
        readParts_followsItem _ followsItem_nil
  rw [parse_trimmed htrimmed, readItem_element (by decide) (by simp) helement, readOperator_nil]
  rfl

/-- All digits behind the at sign belong to the base. -/
theorem number_base (counter : Counter) :
    counter.number ("$@".toList ++ digits)
      = Text.ofNat (min (Counter.baseOf digits + counter.index) (2 ^ 64 - 1)) := by
  have hread : counter.number (Counter.Token.mk 1 (some (false, digits))).text
      = Text.padded 1 (counter.value false (Counter.baseOf digits)) :=
    Counter.number_text counter (Nat.le_refl 1) hdigits
  rw [padded_one] at hread
  exact hread

variable (hne : digits ≠ [])
include hne

theorem parse_listItem_value : parse ("li*".toList ++ digits)
    = .ok [listItem (if Text.digitsValue digits < 2 ^ 64
        then clampedRepeat (Text.digitsValue digits) else 1)] := by
  rw [parse_listItem hdigits, repeatCount, getD_readWord hne]
  split <;> rfl

theorem number_base_value (counter : Counter) :
    counter.number ("$@".toList ++ digits)
      = Text.ofNat (min ((if Text.digitsValue digits < 2 ^ 64
          then clampedBase (Text.digitsValue digits) else 1) + counter.index) (2 ^ 64 - 1)) := by
  rw [number_base hdigits, Counter.baseOf, getD_readWord hne]
  split
  · rename_i hlt
    have hclamped : clampedBase (Text.digitsValue digits) = Text.digitsValue digits := by
      rw [clampedBase]
      omega
    rw [hclamped]
  · rfl

end

/-- Repeats and bases are clamped if and only if a 64-bit word holds the value of their digits,
whatever the number of digits. Clamping is monotone. A value that no word holds stands for one,
as a repeat and as a base. -/
theorem numeral_clamped_iff {digits : Text} (hne : digits ≠ [])
    (hdigits : ∀ c ∈ digits, Text.isDigit c = true) :
    (parse ("li*".toList ++ digits) = .ok [listItem (clampedRepeat (Text.digitsValue digits))]
      ↔ Text.digitsValue digits < 2 ^ 64) ∧
    ((∀ counter : Counter, counter.number ("$@".toList ++ digits)
        = Text.ofNat (min (clampedBase (Text.digitsValue digits) + counter.index) (2 ^ 64 - 1)))
      ↔ Text.digitsValue digits < 2 ^ 64) ∧
    Monotone clampedRepeat ∧ Monotone clampedBase ∧
    (2 ^ 64 ≤ Text.digitsValue digits →
      parse ("li*".toList ++ digits) = .ok [listItem 1] ∧
      ∀ counter : Counter, counter.number ("$@".toList ++ digits)
        = Text.ofNat (min (1 + counter.index) (2 ^ 64 - 1))) := by
  have hparse := parse_listItem_value hdigits hne
  have hnumber := number_base_value hdigits hne
  refine ⟨⟨fun h => ?_, fun hlt => ?_⟩, ⟨fun h => ?_, fun hlt => ?_⟩, monotone_clampedRepeat,
    monotone_clampedBase, fun hle => ⟨?_, fun counter => ?_⟩⟩
  · -- A value beyond all words is clamped to the largest repeat, which is not one.
    by_contra hlt
    rw [hparse, if_neg hlt] at h
    have hone : 1 = clampedRepeat (Text.digitsValue digits) := by
      simpa [listItem] using h
    rw [clampedRepeat] at hone
    omega
  · rw [hparse, if_pos hlt]
  · -- The first copy tells the bases apart.
    by_contra hlt
    have hfirst := (hnumber {}).symm.trans (h {})
    rw [if_neg hlt] at hfirst
    have hvalue := congrArg Text.digitsValue hfirst
    rw [digitsValue_ofNat, digitsValue_ofNat, clampedBase] at hvalue
    have hindex : Counter.index {} = 0 := rfl
    omega
  · intro counter
    rw [hnumber, if_pos hlt]
  · rw [hparse, if_neg (Nat.not_lt.2 hle)]
  · rw [hnumber, if_neg (Nat.not_lt.2 hle)]

/-- The largest word with zeros in front. -/
theorem numeral_clamped_iff_wordMax :
    parse "li*00018446744073709551615" = .ok [listItem 1000] ∧
    ∀ counter : Counter, counter.number "$@00018446744073709551615"
      = Text.ofNat (min (2 ^ 64 - 1 + counter.index) (2 ^ 64 - 1)) := by
  have hne : "00018446744073709551615".toList ≠ [] := by decide
  have hdigits : ∀ c ∈ "00018446744073709551615".toList, Text.isDigit c = true :=
    List.all_eq_true.1 (by decide)
  obtain ⟨hrepeat, hbase, -⟩ := numeral_clamped_iff hne hdigits
  exact ⟨hrepeat.2 (by decide), hbase.2 (by decide)⟩

/-- The first value that no word holds is one, as a repeat and as a base. -/
theorem one_of_wordMax_succ :
    Text.digitsValue "18446744073709551616" = 2 ^ 64 ∧
    parse "li*18446744073709551616" = .ok [listItem 1] ∧ clampedRepeat (2 ^ 64) = 1000 ∧
    Counter.number {} "$@18446744073709551616" = "1" ∧ clampedBase (2 ^ 64) = 2 ^ 64 - 1 := by
  have hdigits : ∀ c ∈ "18446744073709551616".toList, Text.isDigit c = true :=
    List.all_eq_true.1 (by decide)
  have hne : "18446744073709551616".toList ≠ [] := by decide
  exact ⟨by decide, parse_listItem_value hdigits hne, by decide,
    number_base_value hdigits hne {}, by decide⟩

end Markup

end Shorthand
