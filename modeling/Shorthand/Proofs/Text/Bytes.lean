import Shorthand.Text.Utf8

/-!
# `Shorthand.Proofs.Text.Bytes`: a text through the bytes of its encoding

Offsets count bytes, so an offset can miss: it may lie beyond the text, or inside a character.
`after?`, `before?` and `between?` cut a text at offsets and have no result for a cut that does
not exist. The offsets with a cut are the boundaries of the text (`IsBoundary`).

A loop over the bytes sees no characters. It still finds ASCII characters, because UTF-8 keeps
them as they are and spells every other character in bytes that are none:

- `toUtf8_cons_of_lt` and `le_toNat_of_mem_charBytes`: the two kinds of characters;
- `takeWhile_toUtf8` and `any_head?_toUtf8`: a class of ASCII characters goes as far in the
  bytes as it goes in the text.
-/

set_option autoImplicit false

namespace Shorthand

namespace Text

/-! ### Sizes -/

theorem length_charBytes (c : Char) : (charBytes c).length = c.utf8Size := by
  have h : c.utf8Size = if c.toNat ≤ 0x7F then 1 else if c.toNat ≤ 0x7FF then 2
      else if c.toNat ≤ 0xFFFF then 3 else 4 := by
    simp only [Char.utf8Size, UInt32.le_iff_toNat_le]
    rfl
  rw [h]
  unfold charBytes
  grind

theorem toUtf8_cons (c : Char) (t : Text) : toUtf8 (c :: t) = charBytes c ++ toUtf8 t := rfl

theorem toUtf8_append (s t : Text) : toUtf8 (s ++ t) = toUtf8 s ++ toUtf8 t :=
  List.flatMap_append

/-- A text has as many bytes as its size says. -/
theorem length_toUtf8 (t : Text) : (toUtf8 t).length = utf8Size t := by
  induction t with
  | nil => rfl
  | cons c rest ih =>
    rw [utf8Size, ← ih, ← length_charBytes]
    simp [toUtf8]

theorem utf8Size_append (s t : Text) : utf8Size (s ++ t) = utf8Size s + utf8Size t := by
  induction s with
  | nil => simp [utf8Size]
  | cons c rest ih =>
    rw [List.cons_append, utf8Size, utf8Size, ih]
    omega

theorem utf8Size_pos {s : Text} (h : s ≠ []) : 0 < utf8Size s := by
  obtain ⟨c, rest, rfl⟩ := List.exists_cons_of_ne_nil h
  exact Nat.add_pos_left (Char.utf8Size_pos c) _

theorem utf8Size_eq_length {s : Text} (h : ∀ c ∈ s, c.utf8Size = 1) : utf8Size s = s.length := by
  induction s with
  | nil => rfl
  | cons c rest ih =>
    obtain ⟨hc, hrest⟩ := List.forall_mem_cons.1 h
    rw [utf8Size, hc, ih hrest, List.length_cons, Nat.add_comm]

theorem takeBytes_utf8Size_append (s t : Text) : takeBytes (utf8Size s) (s ++ t) = s := by
  induction s with
  | nil =>
    cases t with
    | nil => rfl
    | cons c rest =>
      have := c.utf8Size_pos
      rw [List.nil_append, utf8Size, takeBytes, if_neg (by omega)]
  | cons c rest ih =>
    rw [List.cons_append, utf8Size, takeBytes, if_pos (by omega), Nat.add_sub_cancel_left, ih]

theorem dropBytes_utf8Size_append (s t : Text) : dropBytes (utf8Size s) (s ++ t) = t := by
  induction s with
  | nil =>
    cases t with
    | nil => rfl
    | cons c rest =>
      have := c.utf8Size_pos
      rw [List.nil_append, utf8Size, dropBytes, if_neg (by omega)]
  | cons c rest ih =>
    rw [List.cons_append, utf8Size, dropBytes, if_pos (by omega), Nat.add_sub_cancel_left, ih]

/-! ### Cuts at offsets -/

/-- An offset between two characters, or at one of the ends of the text. -/
def IsBoundary (t : Text) (n : Nat) : Prop :=
  ∃ before after, t = before ++ after ∧ utf8Size before = n

/-- What stands before an offset. -/
def before? (t : Text) (n : Nat) : Option Text :=
  if utf8Size (takeBytes n t) = n then some (takeBytes n t) else none

/-- What stands behind an offset. -/
def after? (t : Text) (n : Nat) : Option Text :=
  if utf8Size (takeBytes n t) = n then some (dropBytes n t) else none

/-- What stands between two offsets. Of two offsets in the wrong order there is nothing. -/
def between? (t : Text) (start stop : Nat) : Option Text :=
  (before? t stop).bind fun front => after? front start

/-- The bytes behind an offset. They can start inside a character. -/
def bytesAfter? (t : Text) (n : Nat) : Option (List UInt8) :=
  if n ≤ utf8Size t then some ((toUtf8 t).drop n) else none

theorem isBoundary_append (before after : Text) :
    IsBoundary (before ++ after) (utf8Size before) :=
  ⟨before, after, rfl, rfl⟩

theorem IsBoundary.le {t : Text} {n : Nat} (h : IsBoundary t n) : n ≤ utf8Size t := by
  obtain ⟨before, after, rfl, rfl⟩ := h
  rw [utf8Size_append]
  omega

theorem before?_append (before after : Text) :
    before? (before ++ after) (utf8Size before) = some before := by
  rw [before?, takeBytes_utf8Size_append, if_pos rfl]

theorem after?_append (before after : Text) :
    after? (before ++ after) (utf8Size before) = some after := by
  rw [after?, takeBytes_utf8Size_append, if_pos rfl, dropBytes_utf8Size_append]

theorem between?_append (before between after : Text) :
    between? (before ++ between ++ after) (utf8Size before) (utf8Size (before ++ between))
      = some between := by
  rw [between?, before?_append, Option.bind_some, after?_append]

theorem bytesAfter?_append (before after : Text) :
    bytesAfter? (before ++ after) (utf8Size before) = some (toUtf8 after) := by
  rw [bytesAfter?, if_pos (isBoundary_append before after).le, toUtf8_append, ← length_toUtf8,
    List.drop_left]

/-! ### ASCII characters among bytes -/

theorem toNat_lt (c : Char) : c.toNat < 0x110000 := by
  obtain h | h := c.valid
  · exact Nat.lt_trans h (by decide)
  · exact h.2

theorem charBytes_ne_nil (c : Char) : charBytes c ≠ [] := by
  unfold charBytes
  simp only
  repeat' split
  all_goals simp

/-- An ASCII character is one byte. -/
theorem charBytes_of_lt {c : Char} (hc : c.toNat < 0x80) : charBytes c = [c.toUInt8] :=
  if_pos hc

theorem toUtf8_cons_of_lt {c : Char} (hc : c.toNat < 0x80) (t : Text) :
    toUtf8 (c :: t) = c.toUInt8 :: toUtf8 t := by
  rw [toUtf8_cons, charBytes_of_lt hc]
  rfl

/-- The byte at an offset at which an ASCII character stands. -/
theorem getElem?_toUtf8_append {c : Char} (hc : c.toNat < 0x80) (before after : Text) :
    (toUtf8 (before ++ c :: after))[utf8Size before]? = some c.toUInt8 := by
  rw [toUtf8_append, ← length_toUtf8, List.getElem?_append_right (Nat.le_refl _), Nat.sub_self,
    toUtf8_cons_of_lt hc]
  rfl

theorem toNat_toUInt8 {n : Nat} (hn : n < 256) : n.toUInt8.toNat = n :=
  UInt8.toNat_ofNat_of_lt' hn

/-- No byte of another character is an ASCII character. -/
theorem le_toNat_of_mem_charBytes {c : Char} (hc : 0x80 ≤ c.toNat) {b : UInt8}
    (hb : b ∈ charBytes c) : 0x80 ≤ b.toNat := by
  have hlt := toNat_lt c
  -- Each byte is a small number on top of the mark of its place, and is not cut off.
  have hmark : ∃ n, 0x80 ≤ n ∧ n < 256 ∧ b = n.toUInt8 := by
    unfold charBytes at hb
    generalize c.toNat = n at hc hlt hb
    simp only at hb
    split at hb
    · omega
    all_goals
      repeat' split at hb
      all_goals
        simp only [List.mem_cons, List.not_mem_nil, or_false] at hb
        rcases hb with rfl | rfl | rfl | rfl
        all_goals exact ⟨_, by omega, by omega, rfl⟩
  obtain ⟨n, hle, hn, rfl⟩ := hmark
  rwa [toNat_toUInt8 hn]

theorem toNat_charToUInt8 {c : Char} (hc : c.toNat < 0x80) : c.toUInt8.toNat = c.toNat := by
  show c.toNat.toUInt8.toNat = c.toNat
  exact toNat_toUInt8 (by omega)

theorem ofUInt8_toUInt8 {c : Char} (hc : c.toNat < 0x80) : Char.ofUInt8 c.toUInt8 = c :=
  Char.toNat_inj.1 (toNat_charToUInt8 hc)

theorem utf8Size_of_lt {c : Char} (hc : c.toNat < 0x80) : c.utf8Size = 1 := by
  rw [← length_charBytes, charBytes_of_lt hc]
  rfl

/-- Of two ASCII characters the bytes are equal if the characters are. -/
theorem toUInt8_inj {c d : Char} (hc : c.toNat < 0x80) (hd : d.toNat < 0x80) :
    c.toUInt8 = d.toUInt8 ↔ c = d := by
  refine ⟨fun h => ?_, fun h => h ▸ rfl⟩
  rw [← ofUInt8_toUInt8 hc, h, ofUInt8_toUInt8 hd]

theorem lt_of_isAlpha {c : Char} (h : c.isAlpha = true) : c.toNat < 0x80 := by
  obtain hupper | hlower := Bool.or_eq_true_iff.1 h
  · have hle : c.toNat ≤ 90 := UInt32.le_iff_toNat_le.1 (of_decide_eq_true hupper).2
    omega
  · have hle : c.toNat ≤ 122 :=
      UInt32.le_iff_toNat_le.1 (of_decide_eq_true (Bool.and_eq_true_iff.1 hlower).2)
    omega

/-- The byte of an ASCII character stands in no other character. -/
theorem ne_toUInt8_of_mem_charBytes {c d : Char} (hd : d.toNat < 0x80) (hne : c ≠ d) {b : UInt8}
    (hb : b ∈ charBytes c) : b ≠ d.toUInt8 := by
  rintro rfl
  obtain hc | hc := Nat.lt_or_ge c.toNat 0x80
  · rw [charBytes_of_lt hc, List.mem_singleton, toUInt8_inj hd hc] at hb
    exact hne hb.symm
  · have hle := le_toNat_of_mem_charBytes hc hb
    rw [toNat_charToUInt8 hd] at hle
    omega

/-- The bytes start with an ASCII character where the text does. -/
theorem head?_toUtf8_eq_some_iff {d : Char} (hd : d.toNat < 0x80) (t : Text) :
    (toUtf8 t).head? = some d.toUInt8 ↔ t.head? = some d := by
  cases t with
  | nil => simp [toUtf8]
  | cons c rest =>
    by_cases hcd : c = d
    · subst hcd
      simp [toUtf8_cons_of_lt hd]
    · obtain ⟨b, bytes, hbytes⟩ := List.exists_cons_of_ne_nil (charBytes_ne_nil c)
      have hb := ne_toUInt8_of_mem_charBytes hd hcd (b := b) (by simp [hbytes])
      simp [toUtf8_cons, hbytes, hb, hcd]

section

variable {p : Char → Bool} (hp : ∀ c, p c = true → c.toNat < 0x80)
include hp

theorem eq_false_of_le {c : Char} (hc : 0x80 ≤ c.toNat) : p c = false :=
  Bool.eq_false_iff.2 fun h => Nat.not_lt.2 hc (hp c h)

/-- The first byte of another character belongs to no class of ASCII characters. -/
theorem exists_charBytes_cons {c : Char} (hc : 0x80 ≤ c.toNat) :
    ∃ b bytes, charBytes c = b :: bytes ∧ p (Char.ofUInt8 b) = false := by
  obtain ⟨b, bytes, hbytes⟩ := List.exists_cons_of_ne_nil (charBytes_ne_nil c)
  have hb : b ∈ charBytes c := by simp [hbytes]
  exact ⟨b, bytes, hbytes, eq_false_of_le hp (le_toNat_of_mem_charBytes hc hb)⟩

theorem takeWhile_toUtf8 (t : Text) :
    (toUtf8 t).takeWhile (fun b => p (Char.ofUInt8 b)) = toUtf8 (t.takeWhile p) := by
  induction t with
  | nil => rfl
  | cons c rest ih =>
    obtain hc | hc := Nat.lt_or_ge c.toNat 0x80
    · rw [toUtf8_cons_of_lt hc, List.takeWhile_cons, List.takeWhile_cons, ofUInt8_toUInt8 hc, ih]
      split
      · rw [toUtf8_cons_of_lt hc]
      · rfl
    · obtain ⟨b, bytes, hbytes, hb⟩ := exists_charBytes_cons hp hc
      rw [toUtf8_cons, hbytes, List.cons_append, List.takeWhile_cons, List.takeWhile_cons,
        eq_false_of_le hp hc, hb]
      rfl

theorem any_head?_toUtf8 (t : Text) :
    ((toUtf8 t).head?.any fun b => p (Char.ofUInt8 b)) = t.head?.any p := by
  cases t with
  | nil => rfl
  | cons c rest =>
    obtain hc | hc := Nat.lt_or_ge c.toNat 0x80
    · rw [toUtf8_cons_of_lt hc, List.head?_cons, List.head?_cons, Option.any_some, Option.any_some,
        ofUInt8_toUInt8 hc]
    · obtain ⟨b, bytes, hbytes, hb⟩ := exists_charBytes_cons hp hc
      rw [toUtf8_cons, hbytes, List.cons_append, List.head?_cons, List.head?_cons,
        Option.any_some, Option.any_some, eq_false_of_le hp hc, hb]

end

end Text

end Shorthand
