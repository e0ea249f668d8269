import Mathlib.Data.Bool.AllAny
import Shorthand.Proofs.Completion.Edits
import Shorthand.Proofs.Completion.TagEnds

/-!
# `Shorthand.Proofs.Completion.Brackets`: the structure of an extracted abbreviation

The extractor reads a line from right to left. It keeps a stack of closing brackets, a quote that
is open inside them, and a number of closing parentheses, and it stops at the first character
that cannot belong to an abbreviation.

`extract_structure` says what it has found when it answers. The abbreviation is the end of the
line, and it does not start with an operator that needs something before it. It is a sequence of
`Piece`s: characters outside brackets, and brackets that enclose a text in which every quote and
every bracket has its partner (`Enclosed`). Every opening parenthesis outside brackets has its
closing partner to its right (`OpeningsClosed`). And the abbreviation alone is extracted as a
whole.

`Moves` says once what a character does to the state of the reader. `Scan.Explains` says what a
state knows of the text behind it, and each move keeps it (`explains_moves`). For the last part,
the only question that looks beyond the abbreviation is whether an angle bracket closes a tag. A
shorter line answers it with yes only if the longer one does (`moves_of_isPrefix`).
-/

set_option autoImplicit false

namespace Shorthand

namespace Completion

/-! ### Moves -/

/-- Characters of abbreviations outside brackets are no brackets, and no parentheses. -/
theorem notMem_of_isPlain {c : Char} (h : Text.isAlphanumeric c = true ∨ isOperator c = true) :
    c ∉ ['[', ']', '{', '}', '(', ')'] := by
  have hnone : ∀ d ∈ ['[', ']', '{', '}', '(', ')'],
      ¬(Text.isAlphanumeric d = true ∨ isOperator d = true) :=
    List.all_iff_forall_prop.1 (by decide)
  exact fun hmem => hnone c hmem h

/-- What a character that is taken does to the state. -/
inductive Moves (before : Text) : Scan → Char → Scan → Prop
  /-- A quote is over where it comes again. -/
  | unquote {state : Scan} {quote : Char} (hquote : state.quote = some quote) :
    Moves before state quote { state with quote := none }
  | inQuote {state : Scan} {quote c : Char} (hquote : state.quote = some quote) (hc : c ≠ quote) :
    Moves before state c state
  | quote {state : Scan} {c : Char} (hquote : state.quote = none) (hinside : state.closers ≠ [])
    (hc : c = '"' ∨ c = '\'') : Moves before state c { state with quote := some c }
  | closing {state : Scan} {c : Char} (hquote : state.quote = none) (hc : c = ']' ∨ c = '}') :
    Moves before state c { state with closers := c :: state.closers }
  | opening {state : Scan} {c : Char} {outer : List Char} (hquote : state.quote = none)
    (hclosers : state.closers = closerOf c :: outer) (hc : c = '[' ∨ c = '{') :
    Moves before state c { state with closers := outer }
  | inside {state : Scan} {c : Char} (hquote : state.quote = none) (hinside : state.closers ≠ [])
    (hc : c ∉ ['"', '\'', '[', ']', '{', '}']) : Moves before state c state
  | closingGroup {state : Scan} (hquote : state.quote = none) (houtside : state.closers = []) :
    Moves before state ')' { state with groups := state.groups + 1 }
  | openingGroup {state : Scan} {n : Nat} (hquote : state.quote = none)
    (houtside : state.closers = []) (hgroups : state.groups = n + 1) :
    Moves before state '(' { state with groups := n }
  | outside {state : Scan} {c : Char} (hquote : state.quote = none)
    (houtside : state.closers = []) (hc : Text.isAlphanumeric c = true ∨ isOperator c = true)
    (htag : c = '>' → closesTag before = false) : Moves before state c state

theorem moves_of_step {state state' : Scan} {c : Char} {before : Text} :
    step state c before = .take state' → Moves before state c state' := by
  fun_cases step state c before with
  | case1 quote hquote =>
    rintro ⟨⟩
    split
    · rename_i hc
      rw [hc]
      exact .unquote hquote
    · rename_i hc
      exact .inQuote hquote hc
  | case2 closer outer hclosers hquote hc =>
    rintro ⟨⟩
    exact .quote hquote (by simp [hclosers]) hc
  | case3 closer outer hclosers hquote _ hc =>
    rintro ⟨⟩
    rw [← hclosers]
    exact .closing hquote hc
  | case4 outer hquote _ _ hc hclosers =>
    rintro ⟨⟩
    exact .opening hquote hclosers hc
  | case6 closer outer hclosers hquote hquotes hclosing hopening =>
    rintro ⟨⟩
    exact .inside hquote (by simp [hclosers]) (by simp_all)
  | case7 hclosers hquote hc =>
    rintro ⟨⟩
    rw [← hclosers]
    exact .closing hquote hc
  | case9 hclosers hquote _ _ hc =>
    rintro ⟨⟩
    rw [hc]
    exact .closingGroup hquote hclosers
  | case11 hclosers hquote _ _ _ hc hgroups =>
    rintro ⟨⟩
    rw [hc]
    exact .openingGroup hquote hclosers (by omega)
  | case13 hclosers hquote _ _ _ _ htag hc =>
    rintro ⟨⟩
    exact .outside hquote hclosers (by simpa using hc) (by simpa using htag)
  | case5 | case8 | case10 | case12 | case14 => rintro ⟨⟩

/-- The moves are all of the steps that take a character, and no others. -/
theorem step_of_moves {state state' : Scan} {c : Char} {before : Text}
    (h : Moves before state c state') : step state c before = .take state' := by
  cases h with
  | unquote hquote => simp [step, hquote]
  | inQuote hquote hc => simp [step, hquote, hc]
  | quote hquote hinside hc =>
    obtain ⟨closer, outer, hclosers⟩ := List.exists_cons_of_ne_nil hinside
    simp [step, hquote, hclosers, hc]
  | closing hquote hc =>
    have hnot : ¬ (c = '"' ∨ c = '\'') := by obtain rfl | rfl := hc <;> decide
    cases hclosers : state.closers with
    | nil => simp [step, hquote, hclosers, hc]
    | cons closer outer => simp [step, hquote, hclosers, hc, hnot]
  | opening hquote hclosers hc =>
    have hnot : ¬ (c = '"' ∨ c = '\'') ∧ ¬ (c = ']' ∨ c = '}') := by
      obtain rfl | rfl := hc <;> decide
    simp [step, hquote, hclosers, hc, hnot]
  | inside hquote hinside hc =>
    obtain ⟨closer, outer, hclosers⟩ := List.exists_cons_of_ne_nil hinside
    simp only [List.mem_cons, not_or] at hc
    simp [step, hquote, hclosers, hc]
  | closingGroup hquote houtside => simp [step, hquote, houtside]
  | openingGroup hquote houtside hgroups => simp [step, hquote, houtside, hgroups]
  | outside hquote houtside hc htag =>
    have hnot := notMem_of_isPlain hc
    simp only [List.mem_cons, not_or] at hnot
    simp [step, hquote, houtside, hnot, hc]
    simpa using htag

/-- A shorter line has no tags that the longer one has not. -/
theorem moves_of_isPrefix {short before : Text} (h : short <+: before) {state state' : Scan}
    {c : Char} (hmoves : Moves before state c state') : Moves short state c state' := by
  cases hmoves with
  | unquote hquote => exact .unquote hquote
  | inQuote hquote hc => exact .inQuote hquote hc
  | quote hquote hinside hc => exact .quote hquote hinside hc
  | closing hquote hc => exact .closing hquote hc
  | opening hquote hclosers hc => exact .opening hquote hclosers hc
  | inside hquote hinside hc => exact .inside hquote hinside hc
  | closingGroup hquote houtside => exact .closingGroup hquote houtside
  | openingGroup hquote houtside hgroups => exact .openingGroup hquote houtside hgroups
  | outside hquote houtside hc htag =>
    refine .outside hquote houtside hc ?_
    intro hbracket
    by_contra hcloses
    have hlonger := closesTag_of_isPrefix h (Bool.of_not_eq_false hcloses)
    rw [htag hbracket] at hlonger
    cases hlonger

/-- Reading stops only outside brackets. -/
theorem closed_of_step {state : Scan} {c : Char} {before : Text} :
    step state c before = .stop → state.quote = none ∧ state.closers = [] := by
  fun_cases step state c before with
  | case8 hclosers hquote => exact fun _ => ⟨hquote, hclosers⟩
  | case10 hclosers hquote => exact fun _ => ⟨hquote, hclosers⟩
  | case12 hclosers hquote => exact fun _ => ⟨hquote, hclosers⟩
  | case14 hclosers hquote => exact fun _ => ⟨hquote, hclosers⟩
  | _ => rintro ⟨⟩

/-! ### Brackets -/

/-- What may stand inside brackets and braces: characters that are neither quotes nor brackets, and
quotes and brackets with their partners. Between two quotes there may be brackets as well. -/
inductive Enclosed : Text → Prop
  | nil : Enclosed []
  | char {c : Char} {t : Text} (hc : c ∉ ['"', '\'', '[', ']', '{', '}']) (ht : Enclosed t) :
    Enclosed (c :: t)
  | quoted {quote : Char} {body t : Text} (hquote : quote = '"' ∨ quote = '\'')
    (hbody : quote ∉ body) (ht : Enclosed t) : Enclosed (quote :: (body ++ quote :: t))
  | bracketed {c : Char} {inner t : Text} (hc : c = '[' ∨ c = '{') (hinner : Enclosed inner)
    (ht : Enclosed t) : Enclosed (c :: (inner ++ closerOf c :: t))

/-- A part of an abbreviation: a character outside brackets, or a bracket with what it encloses. -/
inductive Piece where
  | outside (c : Char)
  | bracketed (c : Char) (inner : Text)
  deriving DecidableEq

namespace Piece

def text : Piece → Text
  | .outside c => [c]
  | .bracketed c inner => c :: (inner ++ [closerOf c])

/-- Outside brackets there are letters, numbers, operators and parentheses. -/
def WellFormed : Piece → Prop
  | .outside c => Text.isAlphanumeric c = true ∨ isOperator c = true ∨ c = '(' ∨ c = ')'
  | .bracketed c inner => (c = '[' ∨ c = '{') ∧ Enclosed inner

end Piece

/-- Pieces in which every parenthesis has its partner. -/
inductive Paired : List Piece → Prop
  | nil : Paired []
  | other {piece : Piece} {pieces : List Piece} (hopen : piece ≠ .outside '(')
    (hclose : piece ≠ .outside ')') (hpieces : Paired pieces) : Paired (piece :: pieces)
  | group {inner pieces : List Piece} (hinner : Paired inner) (hpieces : Paired pieces) :
    Paired (.outside '(' :: (inner ++ .outside ')' :: pieces))

/-- Every opening parenthesis has its closing partner to its right. -/
def OpeningsClosed (pieces : List Piece) : Prop :=
  ∀ left right, pieces = left ++ .outside '(' :: right →
    ∃ inner rest, right = inner ++ .outside ')' :: rest ∧ Paired inner

/-- Pieces with `n` closing parentheses that have no partner among them. -/
inductive Waiting : Nat → List Piece → Prop
  | paired {pieces : List Piece} (h : Paired pieces) : Waiting 0 pieces
  | closing {n : Nat} {inner pieces : List Piece} (hinner : Paired inner)
    (hpieces : Waiting n pieces) : Waiting (n + 1) (inner ++ .outside ')' :: pieces)

theorem Waiting.other {n : Nat} {piece : Piece} {pieces : List Piece}
    (hopen : piece ≠ .outside '(') (hclose : piece ≠ .outside ')') (h : Waiting n pieces) :
    Waiting n (piece :: pieces) := by
  cases h with
  | paired h => exact .paired (.other hopen hclose h)
  | closing hinner hpieces => exact .closing (.other hopen hclose hinner) hpieces

/-- An opening parenthesis takes the nearest closing one that waits. -/
theorem Waiting.opening {n : Nat} {pieces : List Piece} (h : Waiting (n + 1) pieces) :
    Waiting n (.outside '(' :: pieces) := by
  cases h with
  | closing hinner hpieces =>
    cases hpieces with
    | paired hrest => exact .paired (.group hinner hrest)
    | closing hnext hrest =>
      have hgroup := Waiting.closing (Paired.group hinner hnext) hrest
      simpa using hgroup

theorem Waiting.exists_partner {n : Nat} {pieces : List Piece} (h : Waiting (n + 1) pieces) :
    ∃ inner rest, pieces = inner ++ .outside ')' :: rest ∧ Paired inner := by
  cases h with
  | closing hinner hpieces => exact ⟨_, _, rfl, hinner⟩

theorem openingsClosed_nil : OpeningsClosed [] := by
  intro left right h
  simp at h

theorem OpeningsClosed.cons {piece : Piece} {pieces : List Piece} (h : OpeningsClosed pieces)
    (hpiece : piece = .outside '(' →
      ∃ inner rest, pieces = inner ++ .outside ')' :: rest ∧ Paired inner) :
    OpeningsClosed (piece :: pieces) := by
  intro left right heq
  cases left with
  | nil =>
    obtain ⟨rfl, rfl⟩ := List.cons_eq_cons.1 heq
    exact hpiece rfl
  | cons first left => exact h left right (List.cons_eq_cons.1 heq).2

/-! ### What is open while reading -/

/-- The pieces that have been read outside brackets, with `n` closing parentheses that wait for
their partners. -/
structure Outside (n : Nat) (pieces : List Piece) : Prop where
  wellFormed : ∀ piece ∈ pieces, piece.WellFormed
  waiting : Waiting n pieces
  closed : OpeningsClosed pieces

theorem outside_nil : Outside 0 [] where
  wellFormed := List.forall_mem_nil _
  waiting := .paired .nil
  closed := openingsClosed_nil

section

variable {n : Nat} {pieces : List Piece}

theorem Outside.other (h : Outside n pieces) {piece : Piece} (hpiece : piece.WellFormed)
    (hopen : piece ≠ .outside '(') (hclose : piece ≠ .outside ')') :
    Outside n (piece :: pieces) where
  wellFormed := List.forall_mem_cons.2 ⟨hpiece, h.wellFormed⟩
  waiting := h.waiting.other hopen hclose
  closed := h.closed.cons fun heq => absurd heq hopen

theorem Outside.closing (h : Outside n pieces) : Outside (n + 1) (.outside ')' :: pieces) where
  wellFormed := List.forall_mem_cons.2 ⟨.inr (.inr (.inr rfl)), h.wellFormed⟩
  waiting := Waiting.closing .nil h.waiting
  closed := h.closed.cons fun heq => nomatch heq

theorem Outside.opening (h : Outside (n + 1) pieces) : Outside n (.outside '(' :: pieces) where
  wellFormed := List.forall_mem_cons.2 ⟨.inr (.inr (.inl rfl)), h.wellFormed⟩
  waiting := h.waiting.opening
  closed := h.closed.cons fun _ => h.waiting.exists_partner

end

/-- A text that has been read up to here, with brackets that wait for their opening partners, the
nearest one first, and a number of waiting parentheses. -/
inductive Opened : List Char → Nat → Text → Prop
  | outside {n : Nat} {pieces : List Piece} (h : Outside n pieces) :
    Opened [] n (pieces.flatMap Piece.text)
  | inside {closer : Char} {outer : List Char} {n : Nat} {inner t : Text}
    (hcloser : closer = ']' ∨ closer = '}') (hinner : Enclosed inner) (ht : Opened outer n t) :
    Opened (closer :: outer) n (inner ++ closer :: t)

section

variable {c closer : Char} {closers outer : List Char} {n : Nat} {t : Text}

theorem Opened.char (h : Opened (closer :: outer) n t)
    (hc : c ∉ ['"', '\'', '[', ']', '{', '}']) : Opened (closer :: outer) n (c :: t) := by
  cases h with
  | inside hcloser hinner ht => exact .inside hcloser (.char hc hinner) ht

theorem Opened.quoted (h : Opened (closer :: outer) n t) {quote : Char} {body : Text}
    (hquote : quote = '"' ∨ quote = '\'') (hbody : quote ∉ body) :
    Opened (closer :: outer) n (quote :: (body ++ quote :: t)) := by
  cases h with
  | inside hcloser hinner ht =>
    have hquoted := Opened.inside hcloser (Enclosed.quoted hquote hbody hinner) ht
    simpa using hquoted

theorem Opened.closing (h : Opened closers n t) (hc : c = ']' ∨ c = '}') :
    Opened (c :: closers) n (c :: t) :=
  .inside hc .nil h

/-- An opening bracket ends what it encloses, inside other brackets or outside. -/
theorem Opened.opening (h : Opened (closerOf c :: outer) n t) (hc : c = '[' ∨ c = '{') :
    Opened outer n (c :: t) := by
  cases h with
  | inside hcloser hinner ht =>
    cases ht with
    | @outside n pieces hpieces =>
      have hpiece : Piece.WellFormed (.bracketed c _) := ⟨hc, hinner⟩
      have houtside := Opened.outside (hpieces.other hpiece (by simp) (by simp))
      simpa [Piece.text] using houtside
    | inside hcloser' hinner' ht' =>
      have hbracketed := Opened.inside hcloser' (Enclosed.bracketed hc hinner hinner') ht'
      simpa using hbracketed

theorem Opened.other (h : Opened [] n t)
    (hc : Text.isAlphanumeric c = true ∨ isOperator c = true) : Opened [] n (c :: t) := by
  have hnot := notMem_of_isPlain hc
  simp only [List.mem_cons, not_or] at hnot
  cases h with
  | outside hpieces =>
    have hpiece : Piece.WellFormed (.outside c) := by
      obtain halpha | hoperator := hc
      · exact .inl halpha
      · exact .inr (.inl hoperator)
    exact .outside (hpieces.other hpiece (by simp [hnot]) (by simp [hnot]))

theorem Opened.closingGroup (h : Opened [] n t) : Opened [] (n + 1) (')' :: t) := by
  cases h with
  | outside hpieces => exact .outside hpieces.closing

theorem Opened.openingGroup (h : Opened [] (n + 1) t) : Opened [] n ('(' :: t) := by
  cases h with
  | outside hpieces => exact .outside hpieces.opening

end

/-- What a state says of the text that has been read. A quote is open only inside brackets, and it
has not come again since. -/
def Scan.Explains (state : Scan) (t : Text) : Prop :=
  match state.quote with
  | none => Opened state.closers state.groups t
  | some quote => (quote = '"' ∨ quote = '\'') ∧ state.closers ≠ [] ∧
    ∃ body rest, t = body ++ quote :: rest ∧ quote ∉ body ∧
      Opened state.closers state.groups rest

theorem Scan.Explains.opened {state : Scan} {t : Text} (h : state.Explains t)
    (hquote : state.quote = none) : Opened state.closers state.groups t := by
  rwa [Scan.Explains, hquote] at h

theorem Scan.Explains.quoted {state : Scan} {t : Text} (h : state.Explains t) {quote : Char}
    (hquote : state.quote = some quote) :
    (quote = '"' ∨ quote = '\'') ∧ state.closers ≠ [] ∧
      ∃ body rest, t = body ++ quote :: rest ∧ quote ∉ body ∧
        Opened state.closers state.groups rest := by
  rwa [Scan.Explains, hquote] at h

theorem explains_of_opened {state : Scan} {t : Text} (hquote : state.quote = none)
    (h : Opened state.closers state.groups t) : state.Explains t := by
  rwa [Scan.Explains, hquote]

/-- A move keeps what the state says, with the character before the text. -/
theorem explains_moves {state state' : Scan} {c : Char} {before t : Text}
    (h : state.Explains t) (hmoves : Moves before state c state') : state'.Explains (c :: t) := by
  cases hmoves with
  | unquote hquote =>
    obtain ⟨hc, hinside, body, rest, rfl, hbody, hrest⟩ := h.quoted hquote
    obtain ⟨closer, outer, hclosers⟩ := List.exists_cons_of_ne_nil hinside
    show Opened state.closers state.groups _
    rw [hclosers] at hrest ⊢
    exact hrest.quoted hc hbody
  | inQuote hquote hc =>
    obtain ⟨hkind, hinside, body, rest, rfl, hbody, hrest⟩ := h.quoted hquote
    rw [Scan.Explains, hquote]
    -- The text since the quote grows by a character that is not the quote.
    exact ⟨hkind, hinside, c :: body, rest, rfl, by simp [Ne.symm hc, hbody], hrest⟩
  | quote hquote hinside hc =>
    exact ⟨hc, hinside, [], t, rfl, List.not_mem_nil, h.opened hquote⟩
  | closing hquote hc => exact explains_of_opened hquote ((h.opened hquote).closing hc)
  | opening hquote hclosers hc =>
    have hopened := h.opened hquote
    rw [hclosers] at hopened
    exact explains_of_opened hquote (hopened.opening hc)
  | inside hquote hinside hc =>
    have hopened := h.opened hquote
    obtain ⟨closer, outer, hclosers⟩ := List.exists_cons_of_ne_nil hinside
    refine explains_of_opened hquote ?_
    rw [hclosers] at hopened ⊢
    exact hopened.char hc
  | closingGroup hquote houtside =>
    have hopened := h.opened hquote
    rw [houtside] at hopened
    refine explains_of_opened hquote ?_
    rw [houtside]
    exact hopened.closingGroup
  | openingGroup hquote houtside hgroups =>
    have hopened := h.opened hquote
    rw [houtside, hgroups] at hopened
    refine explains_of_opened hquote ?_
    rw [houtside]
    exact hopened.openingGroup
  | outside hquote houtside hc htag =>
    have hopened := h.opened hquote
    refine explains_of_opened hquote ?_
    rw [houtside] at hopened ⊢
    exact hopened.other hc

/-! ### Runs -/

theorem explains_start : Scan.Explains {} [] :=
  Opened.outside outside_nil

/-- When reading ends, all brackets are closed, and the last state explains what was read. -/
theorem opened_of_scan {state : Scan} {taken s before a : Text} (h : state.Explains taken)
    (hscan : scan state taken s = some (before, a)) : ∃ n, Opened [] n a := by
  -- By induction on what is left of the line. At its end, the test for the end says what a stop
  -- says elsewhere.
  induction s generalizing state taken with
  | nil =>
    rw [scan] at hscan
    split at hscan
    · rename_i hclosed
      cases hscan
      simp only [Bool.and_eq_true, Option.isNone_iff_eq_none, List.isEmpty_iff] at hclosed
      have hopened := h.opened hclosed.1
      rw [hclosed.2] at hopened
      exact ⟨_, hopened⟩
    · cases hscan
  | cons c rest ih =>
    rw [scan] at hscan
    split at hscan
    · rename_i hstep
      exact ih (explains_moves h (moves_of_step hstep)) hscan
    · rename_i hstep
      cases hscan
      obtain ⟨hquote, hclosers⟩ := closed_of_step hstep
      have hopened := h.opened hquote
      rw [hclosers] at hopened
      exact ⟨_, hopened⟩
    · cases hscan

/-- What is read is read again when there is nothing before it. -/
theorem scan_alone {state : Scan} {taken s before a : Text}
    (h : scan state taken s = some (before, a)) :
    ∃ t, s = t ++ before ∧ scan state taken t = some ([], a) := by
  induction s generalizing state taken with
  | nil =>
    have hsame := h
    rw [scan] at h
    split at h
    · cases h
      exact ⟨[], rfl, hsame⟩
    · cases h
  | cons c rest ih =>
    rw [scan] at h
    split at h
    · rename_i state' hstep
      obtain ⟨t, rfl, ht⟩ := ih h
      -- The same move is made with only `t` before the character.
      have hmoves := moves_of_isPrefix (List.prefix_append t before) (moves_of_step hstep)
      refine ⟨c :: t, rfl, ?_⟩
      rw [scan, step_of_moves hmoves]
      exact ht
    · rename_i hstep
      cases h
      obtain ⟨hquote, hclosers⟩ := closed_of_step hstep
      refine ⟨[], rfl, ?_⟩
      simp [scan, hquote, hclosers]
    · cases h

/-! ### Extraction -/

/-- The extractor answers if reading ends at something that can start an abbreviation. -/
theorem extract_eq_some_iff {line before a : Text} :
    extract line = some (before, a) ↔
      ∃ c rest, a = c :: rest ∧ isBadStart c = false ∧
        scan {} [] line.reverse = some (before.reverse, a) := by
  unfold extract
  constructor
  · intro h
    split at h
    · cases h
    · rename_i front abbreviation hscan
      split at h
      · cases h
      · rename_i c rest
        split at h
        · cases h
        · rename_i hstart
          cases h
          refine ⟨c, rest, rfl, by simpa using hstart, ?_⟩
          rw [List.reverse_reverse, hscan]
  · rintro ⟨c, rest, rfl, hstart, hscan⟩
    rw [hscan]
    simp [hstart]

/-- An extracted abbreviation is the end of its line, and it does not start with an operator that
needs something before it. All of its brackets are closed by partners of their own kind, with
quotes closed inside them. Outside brackets it has letters, numbers, operators and parentheses,
and every opening parenthesis there is closed. Alone, it is extracted as a whole. -/
theorem extract_structure {line before a : Text} (h : extract line = some (before, a)) :
    line = before ++ a ∧ Text.takeBytes (Text.utf8Size before) line = before ∧
    Text.dropBytes (Text.utf8Size before) line = a ∧
    (∃ c rest, a = c :: rest ∧ c ∉ ['>', '+', '^', '*', '/', ')']) ∧
    (∃ pieces : List Piece, a = pieces.flatMap Piece.text ∧
      (∀ piece ∈ pieces, piece.WellFormed) ∧ OpeningsClosed pieces) ∧
    extract a = some ([], a) := by
  obtain ⟨c, rest, hcons, hstart, hscan⟩ := extract_eq_some_iff.1 h
  have hline : line = before ++ a := (append_extract h).1
  obtain ⟨n, hopened⟩ := opened_of_scan explains_start hscan
  obtain ⟨t, ht, halone⟩ := scan_alone hscan
  have hreverse : t = a.reverse := by
    rw [hline, List.reverse_append] at ht
    exact (List.append_cancel_right ht).symm
  refine ⟨hline, ?_, ?_, ⟨c, rest, hcons, by simpa [isBadStart] using hstart⟩, ?_, ?_⟩
  · rw [hline, Text.takeBytes_utf8Size_append]
  · rw [hline, Text.dropBytes_utf8Size_append]
  · cases hopened with
    | outside houtside => exact ⟨_, rfl, houtside.wellFormed, houtside.closed⟩
  · rw [hreverse] at halone
    exact extract_eq_some_iff.2 ⟨c, rest, hcons, hstart, halone⟩

/-- A parenthesis that is not closed, a closed one, and a bracket between quotes. -/
theorem extract_structure_quotedBracket :
    extract "é((a>b)*2[t=\"]\"]\x7bx y\x7d"
      = some ("é(".toList, "(a>b)*2[t=\"]\"]\x7bx y\x7d".toList) ∧
    Text.dropBytes 3 "é((a>b)*2[t=\"]\"]\x7bx y\x7d" = "(a>b)*2[t=\"]\"]\x7bx y\x7d".toList ∧
    (∃ pieces : List Piece, "(a>b)*2[t=\"]\"]\x7bx y\x7d".toList = pieces.flatMap Piece.text ∧
      (∀ piece ∈ pieces, piece.WellFormed) ∧ OpeningsClosed pieces) ∧
    extract "(a>b)*2[t=\"]\"]\x7bx y\x7d"
      = some ([], "(a>b)*2[t=\"]\"]\x7bx y\x7d".toList) := by
  have hfound : extract "é((a>b)*2[t=\"]\"]\x7bx y\x7d"
      = some ("é(".toList, "(a>b)*2[t=\"]\"]\x7bx y\x7d".toList) := by decide +kernel
  obtain ⟨-, -, hdrop, -, hpieces, halone⟩ := extract_structure hfound
  exact ⟨hfound, hdrop, hpieces, halone⟩

end Completion

end Shorthand
