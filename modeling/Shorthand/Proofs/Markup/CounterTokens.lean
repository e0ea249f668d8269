import Shorthand.Proofs.Abbreviation.PrintedElement
import Shorthand.Proofs.Markup.Copies
import Shorthand.Proofs.Markup.Numbering

/-!
# `Shorthand.Proofs.Markup.CounterTokens`: counter tokens are written by position

A counter token is a run of dollar signs with an optional base behind it (`Counter.Token`). A
`Counter.Source` is a text in which tokens and literal chunks take turns, and nothing in a chunk
can be taken for a part of a token. `number_by_position` says what numbering makes of it:

- literal chunks stay, and each token becomes the base plus the position of the copy, or plus its
  distance from the last copy, whatever the other tokens are;
- over the copies of a node, a token that counts down runs through the numbers of the one that
  counts up, in reverse;
- the counter of each copy that a forest stands for is a position below its total, through
  repeats inside repeats and groups, so a distance from the last copy is never negative.

The reader goes from left to right and has no memory, so a token is read by one equation
(`number_text_append`) whatever follows, as long as it ends there (`EndsToken`).
-/

set_option autoImplicit false

namespace Shorthand

open Text (takeWhile_append_run dropWhile_append_run)
open Abbreviation (digitsValue_ofNat isDigit_of_mem_ofNat)

namespace Counter

/-! ### Tokens -/

/-- A counter token: `width` dollar signs. Behind them may stand an at sign, with a minus sign or
without, and digits. -/
structure Token where
  width : Nat
  modifier : Option (Bool × Text) := none
  deriving DecidableEq, Repr

namespace Token

/-- What stands behind the dollar signs. -/
def modifierText : Option (Bool × Text) → Text
  | none => []
  | some (true, digits) => '@' :: '-' :: digits
  | some (false, digits) => '@' :: digits

/-- The token as it is written. -/
def text (token : Token) : Text :=
  List.replicate token.width '$' ++ modifierText token.modifier

/-- Whether there is a minus sign. -/
def countsDown (token : Token) : Bool :=
  token.modifier.elim false Prod.fst

/-- The digits of the base, if there are some. -/
def digits (token : Token) : Text :=
  token.modifier.elim [] Prod.snd

/-- The number from which positions are counted. -/
def base (token : Token) : Nat :=
  if token.digits = [] then 1 else Text.digitsValue token.digits

/-- The number that a token stands for in a copy. -/
def value (token : Token) (counter : Counter) : Nat :=
  if token.countsDown then min (token.base + counter.total - 1 - counter.index) (2 ^ 64 - 1)
  else min (token.base + counter.index) (2 ^ 64 - 1)

/-- A token with a bounded run of dollar signs and a base that a 64-bit word holds. -/
structure WellFormed (token : Token) : Prop where
  width_pos : 1 ≤ token.width
  width_le : token.width ≤ 65535
  isDigit : ∀ c ∈ token.digits, Text.isDigit c = true
  base_lt : token.base < 2 ^ 64

instance : DecidablePred WellFormed := fun token =>
  decidable_of_iff (1 ≤ token.width ∧ token.width ≤ 65535 ∧
      token.digits.all Text.isDigit = true ∧ token.base < 2 ^ 64)
    ⟨fun ⟨hpos, hle, hdigit, hlt⟩ => ⟨hpos, hle, List.all_eq_true.1 hdigit, hlt⟩,
      fun ⟨hpos, hle, hdigit, hlt⟩ => ⟨hpos, hle, List.all_eq_true.2 hdigit, hlt⟩⟩

end Token

/-- A text before which each token ends. -/
def EndsToken (rest : Text) : Prop :=
  ∀ c ∈ rest.head?, c ≠ '$' ∧ c ≠ '{' ∧ c ≠ '@' ∧ c ≠ '-' ∧ Text.isDigit c = false

/-! ### Chunks and tokens in turn -/

/-- A literal chunk: it has no dollar sign, and it does not take the meaning from the one behind
it. -/
structure IsChunk (chunk : Text) : Prop where
  notMem : '$' ∉ chunk
  getLast?_ne : chunk.getLast? ≠ some '\\'

/-- A chunk that cannot be taken for a part of the token before it. -/
def FollowsToken (chunk : Text) : Prop :=
  ∀ c ∈ chunk.head?, c ≠ '{' ∧ c ≠ '@' ∧ c ≠ '-' ∧ Text.isDigit c = false

instance : DecidablePred IsChunk := fun chunk =>
  decidable_of_iff ('$' ∉ chunk ∧ chunk.getLast? ≠ some '\\')
    ⟨fun ⟨hmem, hlast⟩ => ⟨hmem, hlast⟩, fun ⟨hmem, hlast⟩ => ⟨hmem, hlast⟩⟩

instance : DecidablePred FollowsToken
  | [] => isTrue fun _ h => nomatch h
  | c :: _ => decidable_of_iff (c ≠ '{' ∧ c ≠ '@' ∧ c ≠ '-' ∧ Text.isDigit c = false)
      ⟨fun h _ hc => Option.some.inj hc ▸ h, fun h => h c rfl⟩

/-- A text of chunks and tokens. Each token has the chunk that follows it. -/
structure Source where
  first : Text
  rest : List (Token × Text)

namespace Source

/-- The text of a source. -/
def text (source : Source) : Text :=
  source.first ++ source.rest.flatMap fun (token, chunk) => token.text ++ chunk

/-- The text with its tokens replaced by their numbers, in decimal and with zeros in front up to
the width of the token. -/
def numbered (counter : Counter) (source : Source) : Text :=
  source.first ++ source.rest.flatMap fun (token, chunk) =>
    Text.padded token.width (token.value counter) ++ chunk

/-- Chunks are literal, and tokens have one between them that is not empty. -/
structure WellFormed (source : Source) : Prop where
  first : IsChunk source.first
  token : ∀ part ∈ source.rest, part.1.WellFormed
  chunk : ∀ part ∈ source.rest, IsChunk part.2 ∧ FollowsToken part.2
  separated : ∀ part ∈ source.rest.dropLast, part.2 ≠ []

instance : DecidablePred WellFormed := fun source =>
  decidable_of_iff (IsChunk source.first ∧ (∀ part ∈ source.rest, part.1.WellFormed) ∧
      (∀ part ∈ source.rest, IsChunk part.2 ∧ FollowsToken part.2) ∧
      ∀ part ∈ source.rest.dropLast, part.2 ≠ [])
    ⟨fun ⟨hfirst, htoken, hchunk, hseparated⟩ => ⟨hfirst, htoken, hchunk, hseparated⟩,
      fun ⟨hfirst, htoken, hchunk, hseparated⟩ => ⟨hfirst, htoken, hchunk, hseparated⟩⟩

end Source

/-! ### Reading a token -/

section

variable {token : Token} {rest : Text}

/-- Behind the dollar signs, a modifier is read up to where the token ends. -/
theorem readModifier_append (hdigits : ∀ c ∈ token.digits, Text.isDigit c = true)
    (hrest : EndsToken rest) :
    readModifier (Token.modifierText token.modifier ++ rest)
      = (token.countsDown, baseOf token.digits, rest) := by
  have hend : ∀ c ∈ rest.head?, Text.isDigit c = false := fun c hc => (hrest c hc).2.2.2.2
  obtain ⟨width, modifier⟩ := token
  match modifier with
  | none =>
    show readModifier rest = _
    unfold readModifier
    split
    · exact absurd rfl (hrest '@' rfl).2.2.1
    · exact absurd rfl (hrest '@' rfl).2.2.1
    · rfl
  | some (true, digits) =>
    have hrun : ∀ c ∈ digits, Text.isDigit c = true := hdigits
    show readModifier ('@' :: '-' :: (digits ++ rest)) = _
    rw [readModifier, takeWhile_append_run hrun hend, dropWhile_append_run hrun hend]
    rfl
  | some (false, digits) =>
    have hrun : ∀ c ∈ digits, Text.isDigit c = true := hdigits
    show readModifier ('@' :: (digits ++ rest)) = _
    rw [readModifier, takeWhile_append_run hrun hend, dropWhile_append_run hrun hend]
    · rfl
    · -- A minus sign is neither a digit nor what follows the token.
      intro tail htail
      cases digits with
      | nil =>
        rw [List.nil_append] at htail
        exact (hrest '-' (by rw [htail]; rfl)).2.2.2.1 rfl
      | cons d digits =>
        have hd : Text.isDigit d = true := hdigits d List.mem_cons_self
        rw [(List.cons.inj htail).1] at hd
        exact absurd hd (by decide)

/-- A token is read as a whole, and numbering goes on behind it. -/
theorem number_text_append (counter : Counter) (hwidth : 1 ≤ token.width)
    (hdigits : ∀ c ∈ token.digits, Text.isDigit c = true) (hrest : EndsToken rest) :
    counter.number (token.text ++ rest)
      = Text.padded token.width (counter.value token.countsDown (baseOf token.digits))
        ++ counter.number rest := by
  obtain ⟨k, hk⟩ : ∃ k, token.width = k + 1 := ⟨token.width - 1, by omega⟩
  -- Behind the first dollar sign there are `k` more, and then no other.
  have htext : token.text ++ rest = '$' :: (List.replicate k '$'
      ++ (Token.modifierText token.modifier ++ rest)) := by
    rw [Token.text, hk, List.replicate_succ, List.append_assoc, List.cons_append]
  have hrun : ∀ c ∈ List.replicate k '$', (c == '$') = true := by
    intro c hc
    rw [(List.mem_replicate.1 hc).2]
    rfl
  have hafter : ∀ c ∈ (Token.modifierText token.modifier ++ rest).head?, c ≠ '$' ∧ c ≠ '{' := by
    obtain ⟨width, modifier⟩ := token
    match modifier with
    | none => exact fun c hc => ⟨(hrest c hc).1, (hrest c hc).2.1⟩
    | some (true, digits) => rintro c ⟨⟩; decide
    | some (false, digits) => rintro c ⟨⟩; decide
  have hstop : ∀ c ∈ (Token.modifierText token.modifier ++ rest).head?, (c == '$') = false :=
    fun c hc => beq_false_of_ne (hafter c hc).1
  have hbrace : (List.replicate k '$'
      ++ (Token.modifierText token.modifier ++ rest)).head? ≠ some '{' := by
    intro hhead
    cases k with
    | zero => exact (hafter '{' hhead).2 rfl
    | succ k => cases hhead
  rw [htext, number_token counter hbrace, takeWhile_append_run hrun hstop,
    dropWhile_append_run hrun hstop, readModifier_append hdigits hrest, List.length_replicate, hk]

end

theorem endsToken_nil : EndsToken [] := by
  intro c hc
  cases hc

/-- A token alone becomes its number. -/
theorem number_text (counter : Counter) {token : Token} (hwidth : 1 ≤ token.width)
    (hdigits : ∀ c ∈ token.digits, Text.isDigit c = true) :
    counter.number token.text
      = Text.padded token.width (counter.value token.countsDown (baseOf token.digits)) := by
  have hread := number_text_append counter hwidth hdigits endsToken_nil
  rwa [List.append_nil, number_nil, List.append_nil] at hread

/-- A base in range is read as it is. -/
theorem baseOf_digits {token : Token} (h : token.base < 2 ^ 64) :
    baseOf token.digits = token.base := by
  rw [baseOf, Token.base, Text.readWord]
  by_cases hnil : token.digits = []
  · rw [if_pos hnil, if_pos hnil]
    rfl
  · rw [Token.base, if_neg hnil] at h
    have hword : Text.digitsValue token.digits ≤ wordMax := Nat.le_of_lt_succ h
    rw [if_neg hnil, if_neg hnil, if_pos hword]
    rfl

theorem value_eq {counter : Counter} {token : Token} (h : counter.index < counter.total) :
    counter.value token.countsDown token.base = token.value counter := by
  have hword : wordMax = 2 ^ 64 - 1 := rfl
  have hdistance : token.base + (counter.total - counter.index - 1)
      = token.base + counter.total - 1 - counter.index := by omega
  rw [value, Token.value, hword, hdistance]

/-! ### Reading a source -/

/-- A chunk stays. -/
theorem number_chunk_append (counter : Counter) {chunk : Text} (h : IsChunk chunk) (rest : Text) :
    counter.number (chunk ++ rest) = chunk ++ counter.number rest := by
  obtain ⟨hmem, hlast⟩ := h
  induction chunk with
  | nil => rfl
  | cons c chunk ih =>
    rw [List.mem_cons, not_or] at hmem
    rw [List.cons_append, number_other counter (Ne.symm hmem.1), ih hmem.2, List.cons_append]
    · cases chunk with
      | nil => simp
      | cons d chunk => rwa [List.getLast?_cons_cons] at hlast
    · -- A backslash is not the last character, and the next one is no dollar sign.
      rintro rfl hhead
      cases chunk with
      | nil => exact hlast rfl
      | cons d chunk =>
        obtain rfl : d = '$' := Option.some.inj hhead
        exact hmem.2 List.mem_cons_self

theorem number_parts (counter : Counter) (hcounter : counter.index < counter.total)
    {parts : List (Token × Text)} (htoken : ∀ part ∈ parts, part.1.WellFormed)
    (hchunk : ∀ part ∈ parts, IsChunk part.2 ∧ FollowsToken part.2)
    (hseparated : ∀ part ∈ parts.dropLast, part.2 ≠ []) :
    counter.number (parts.flatMap fun (token, chunk) => token.text ++ chunk)
      = parts.flatMap fun (token, chunk) =>
          Text.padded token.width (token.value counter) ++ chunk := by
  induction parts with
  | nil => exact number_nil counter
  | cons part parts ih =>
    obtain ⟨token, chunk⟩ := part
    obtain ⟨htoken, htokens⟩ := List.forall_mem_cons.1 htoken
    obtain ⟨⟨hchunk, hfollows⟩, hchunks⟩ := List.forall_mem_cons.1 hchunk
    have hmore : ∀ part ∈ parts.dropLast, part.2 ≠ [] := by
      intro part hpart
      cases parts with
      | nil => cases hpart
      | cons next parts =>
        rw [List.dropLast_cons_cons] at hseparated
        exact hseparated part (List.mem_cons_of_mem _ hpart)
    -- The token ends before its chunk. Only the last chunk may be empty, and then the text ends.
    have hends : EndsToken
        (chunk ++ parts.flatMap fun (token, chunk) => token.text ++ chunk) := by
      cases chunk with
      | nil =>
        cases parts with
        | nil => exact endsToken_nil
        | cons next parts =>
          rw [List.dropLast_cons_cons] at hseparated
          exact absurd rfl (hseparated (token, []) List.mem_cons_self)
      | cons c chunk =>
        intro d hd
        obtain rfl : c = d := Option.some.inj hd
        refine ⟨?_, hfollows c rfl⟩
        rintro rfl
        exact hchunk.notMem List.mem_cons_self
    rw [List.flatMap_cons, List.flatMap_cons]
    show counter.number ((token.text ++ chunk) ++ _) = (_ ++ chunk) ++ _
    rw [List.append_assoc, List.append_assoc,
      number_text_append counter htoken.width_pos htoken.isDigit hends,
      number_chunk_append counter hchunk, ih htokens hchunks hmore, baseOf_digits htoken.base_lt,
      value_eq hcounter]

/-- Each token of a source becomes its number, and all else stays. -/
theorem number_source {counter : Counter} (hcounter : counter.index < counter.total)
    {source : Source} (h : source.WellFormed) :
    counter.number source.text = source.numbered counter := by
  rw [Source.text, number_chunk_append counter h.first,
    number_parts counter hcounter h.token h.chunk h.separated, Source.numbered]

/-! ### Numerals -/

/-- Zeros in front change neither the value nor the digits. They fill up the width, and a numeral
that is as wide has none. -/
theorem padded_numeral (width n : Nat) :
    (∀ c ∈ Text.padded width n, Text.isDigit c = true) ∧
    Text.digitsValue (Text.padded width n) = n ∧
    (Text.padded width n).length = max width (Text.ofNat n).length := by
  refine ⟨fun c hc => isDigit_of_mem_padded hc, ?_, ?_⟩
  · have hzeros (k : Nat) : Text.digitsValue (List.replicate k '0' ++ Text.ofNat n) = n := by
      induction k with
      | zero => exact digitsValue_ofNat n
      | succ k ih => exact ih
    exact hzeros _
  · rw [Text.padded, List.length_append, List.length_replicate]
    omega

/-! ### Counting down -/

/-- Over the copies of a node, counting down is counting up in reverse. -/
theorem map_number_countsDown (outer : Counter) (n : Nat) {width : Nat} {digits : Text}
    (hwidth : 1 ≤ width) (hdigits : ∀ c ∈ digits, Text.isDigit c = true) :
    (outer.copies (some n)).map (fun copy =>
        copy.number (Token.mk width (some (true, digits))).text)
      = ((outer.copies (some n)).map fun copy =>
          copy.number (Token.mk width (some (false, digits))).text).reverse := by
  have hnumber (copy : Counter) (down : Bool) :
      copy.number (Token.mk width (some (down, digits))).text
        = Text.padded width (copy.value down (baseOf digits)) :=
    number_text copy hwidth hdigits
  refine List.ext_getElem (by simp [copies]) fun i hi hi' => ?_
  have hin : i < n := by simpa [copies] using hi
  simp only [copies, hnumber, List.map_map, List.getElem_map, List.getElem_reverse,
    List.getElem_range, List.length_map, List.length_range, Function.comp_apply]
  -- The copy at `i` has as many behind it as its mirror image has before it.
  have hmirror : n - i - 1 = n - 1 - i := by omega
  rw [value, value, hmirror]
  rfl

end Counter

open Counter in
/-- Counter tokens are written by position. In a text of literal chunks and counter tokens, the
chunks stay and each token becomes its number: the base plus the position of the copy, or plus its
distance from the last copy, in decimal and padded with zeros to the width of the token. Over the
copies of a node, a token that counts down runs through the numbers of the one that counts up in
reverse. All copies that a forest stands for have positions below their totals, and the nodes that
unrolling makes are these copies, with their texts numbered so. -/
theorem number_by_position :
    (∀ (counter : Counter) (source : Source), counter.index < counter.total →
      source.WellFormed → counter.number source.text = source.numbered counter) ∧
    (∀ width n : Nat, (∀ c ∈ Text.padded width n, Text.isDigit c = true) ∧
      Text.digitsValue (Text.padded width n) = n ∧
      (Text.padded width n).length = max width (Text.ofNat n).length) ∧
    (∀ (outer : Counter) (n width : Nat) (digits : Text), 1 ≤ width →
      (∀ c ∈ digits, Text.isDigit c = true) →
      (outer.copies (some n)).map (fun copy =>
          copy.number (Token.mk width (some (true, digits))).text)
        = ((outer.copies (some n)).map fun copy =>
            copy.number (Token.mk width (some (false, digits))).text).reverse) ∧
    (∀ (counter : Counter) (forest : List Node), counter.index < counter.total →
      (∀ copy ∈ Node.forestCopies counter forest, copy.counter.index < copy.counter.total) ∧
      ∀ (parent : Option Text) (budget : Nat) (trees : List Tree) (rest : Nat),
        Markup.unroll parent counter forest budget = some (trees, rest) →
        List.Forall₂ Copy.WrittenAs (Node.forestCopies counter forest)
          (Tree.forestNodes trees)) := by
  refine ⟨fun counter source hcounter h => number_source hcounter h, padded_numeral, ?_, ?_⟩
  · intro outer n width digits hwidth hdigits
    exact map_number_countsDown outer n hwidth hdigits
  · intro counter forest hcounter
    refine ⟨fun copy hcopy => (Node.head_mem_and_index_lt forest hcopy).2 hcounter, ?_⟩
    intro parent budget trees rest hrun
    exact Markup.forall₂_unroll hrun

open Counter in
/-- Tokens of three kinds, with a backslash in a chunk and no chunk behind the last token. -/
def threeTokens : Source where
  first := "a"
  rest := [(⟨2, none⟩, "b"), (⟨1, some (true, "5")⟩, "c\\d"), (⟨1, some (true, [])⟩, [])]

/-- Items in a group that is repeated, and repeated themselves. -/
def nestedRepeats : List Node :=
  [.group [.element { name := some "li", count := some 2 } []] (some 2)]

open Counter in
theorem number_by_position_nestedRepeats :
    Counter.number ⟨1, 3⟩ "a$$b$@-5c\\d$@-" = "a02b6c\\d2" ∧
    ((Counter.copies {} (some 3)).map fun copy =>
        copy.number (Token.mk 2 (some (true, ['9']))).text)
      = ((Counter.copies {} (some 3)).map fun copy =>
          copy.number (Token.mk 2 (some (false, ['9']))).text).reverse ∧
    ∃ trees, Markup.unroll none {} nestedRepeats 10 = some (trees, 6) ∧
      List.Forall₂ Copy.WrittenAs
        ([⟨0, 2⟩, ⟨1, 2⟩, ⟨0, 2⟩, ⟨1, 2⟩].map fun counter =>
          ⟨{ name := some "li", count := some 2 }, counter⟩) (Tree.forestNodes trees) := by
  have hsource : threeTokens.WellFormed := by decide
  obtain ⟨trees, htrees, -⟩ := (Markup.charges_unroll none {} nestedRepeats).enough 6
  obtain ⟨-, hcopies⟩ := number_by_position.2.2.2 {} nestedRepeats (by decide)
  exact ⟨number_by_position.1 ⟨1, 3⟩ threeTokens (by decide) hsource,
    number_by_position.2.2.1 {} 3 2 ['9'] (by decide) (List.all_eq_true.1 (by decide)),
    trees, htrees, hcopies none 10 trees 6 htrees⟩

end Shorthand
