import Mathlib.Data.List.Basic
import Shorthand.Proofs.Abbreviation.PrintedElement
import Shorthand.Proofs.Completion.Brackets
import Shorthand.Proofs.Text.Bytes

/-!
# `Shorthand.Proofs.Completion.BraceText`: text in braces, parsed and extracted

The parser and the extractor both read text in braces, from opposite ends and with different
rules. To the parser a quote in the text is a character like any other. To the extractor it opens
a quotation, as it does in a list of attributes, and the text is over only after the quote has
come again.

`extract_braced` says where they agree, for an element with a text that has neither brackets nor
backslashes. The parser accepts every such text. The extractor finds the element if and only if
every quote in the text has its partner (`Enclosed`), and otherwise it finds nothing at all. In
particular it finds every text without quotes. `extract_apostrophe` is a text that is lost.

`Reads` says what a text does to the state of the extractor, whatever stands around it. An enclosed
text does nothing (`reads_enclosed`), and a text with a quote that is left open takes everything
before it into the quotation.
-/

set_option autoImplicit false

namespace Shorthand

namespace Completion

/-! ### What a text does to the state -/

/-- From one state, a text is taken as a whole, and reading goes on in the other state. -/
def Reads (state : Scan) (t : Text) (state' : Scan) : Prop :=
  ∀ taken more, scan state taken (t.reverse ++ more) = scan state' (t ++ taken) more

section

variable {state state' state'' : Scan}

theorem reads_nil : Reads state [] state := fun _ _ => rfl

theorem reads_char {c : Char} (h : ∀ before, Moves before state c state') :
    Reads state [c] state' := by
  intro taken more
  rw [List.reverse_singleton, List.singleton_append, scan, step_of_moves (h more)]
  rfl

/-- What stands to the right is read first. -/
theorem Reads.append {t u : Text} (h : Reads state t state') (h' : Reads state' u state'') :
    Reads state (u ++ t) state'' := by
  intro taken more
  rw [List.reverse_append, List.append_assoc, h, h', List.append_assoc]

/-- Between quotes, everything but the quote itself is passed over. -/
theorem reads_inQuote {quote : Char} (hquote : state.quote = some quote) {body : Text}
    (hbody : quote ∉ body) : Reads state body state := by
  induction body with
  | nil => exact reads_nil
  | cons c body ih =>
    simp only [List.mem_cons, not_or] at hbody
    exact (ih hbody.2).append (reads_char fun _ => .inQuote hquote (Ne.symm hbody.1))

/-- Inside brackets, a text in which everything has its partner leaves the state as it was. -/
theorem reads_enclosed {inner : Text} (h : Enclosed inner) {state : Scan}
    (hquote : state.quote = none) (hinside : state.closers ≠ []) : Reads state inner state := by
  induction h generalizing state with
  | nil => exact reads_nil
  | char hc ht ih =>
    exact (ih hquote hinside).append (reads_char fun _ => .inside hquote hinside hc)
  | @quoted quote body t hkind hbody ht ih =>
    have hopen : Reads state [quote] { state with quote := some quote } :=
      reads_char fun _ => .quote hquote hinside hkind
    have hclose : Reads { state with quote := some quote } [quote] { state with quote := none } :=
      reads_char fun _ => .unquote rfl
    have hsame : { state with quote := none } = state := by rw [← hquote]
    rw [hsame] at hclose
    exact (((ih hquote hinside).append hopen).append (reads_inQuote rfl hbody)).append hclose
  | @bracketed c inner t hc hinner ht ihinner ih =>
    have hcloser : closerOf c = ']' ∨ closerOf c = '}' := by
      obtain rfl | rfl := hc
      · exact .inl rfl
      · exact .inr rfl
    have hclose : Reads state [closerOf c] { state with closers := closerOf c :: state.closers } :=
      reads_char fun _ => .closing hquote hcloser
    have hopen : Reads { state with closers := closerOf c :: state.closers } [c] state :=
      reads_char fun _ => .opening hquote rfl hc
    exact (((ih hquote hinside).append hclose).append
      (ihinner hquote (List.cons_ne_nil _ _))).append hopen

end

/-! ### Texts without brackets -/

/-- A text without brackets is enclosed, or it has a quote that is open from there on. -/
theorem enclosed_or_open {t : Text} (h : ∀ c ∈ t, c ∉ ['[', ']', '{', '}']) :
    Enclosed t ∨ ∃ quote body rest, (quote = '"' ∨ quote = '\'') ∧ t = body ++ quote :: rest ∧
      quote ∉ body ∧ Enclosed rest := by
  induction t with
  | nil => exact .inl .nil
  | cons c t ih =>
    obtain ⟨hc, ht⟩ := List.forall_mem_cons.1 h
    obtain henclosed | ⟨quote, body, rest, hkind, rfl, hbody, hrest⟩ := ih ht
    · by_cases hquote : c = '"' ∨ c = '\''
      · exact .inr ⟨c, [], t, hquote, rfl, List.not_mem_nil, henclosed⟩
      · simp only [List.mem_cons, not_or] at hc hquote
        exact .inl (.char (by simp [hc, hquote]) henclosed)
    · -- To the left of an open quote, the same quote closes it and all else does nothing.
      by_cases hsame : c = quote
      · subst hsame
        exact .inl (.quoted hkind hbody hrest)
      · exact .inr ⟨quote, c :: body, rest, hkind, rfl, by simp [Ne.symm hsame, hbody], hrest⟩

theorem enclosed_of_forall {t : Text} (h : ∀ c ∈ t, c ∉ ['"', '\'', '[', ']', '{', '}']) :
    Enclosed t := by
  induction t with
  | nil => exact .nil
  | cons c t ih =>
    obtain ⟨hc, ht⟩ := List.forall_mem_cons.1 h
    exact .char hc (ih ht)

/-! ### An element with a text -/

/-- A name and a text in braces. -/
def braced (name text : Text) : Text :=
  name ++ '{' :: (text ++ ['}'])

/-- A text without braces and backslashes ends at the closing brace. -/
theorem readText_plain {text : Text} (h : ∀ c ∈ text, c ∉ ['\\', '{', '}']) :
    Abbreviation.readText 0 (text ++ ['}']) = some (text, []) := by
  have hescaped := @Abbreviation.readText_escaped (· ∈ ['\\', '{', '}']) _ (by decide) (by decide)
    (by decide) text []
  -- There is nothing to escape, so the text is its own escaped form.
  have hsame : text.flatMap (fun c => if c ∈ ['\\', '{', '}'] then ['\\', c] else [c]) = text := by
    rw [List.flatMap_congr fun c hc => if_neg (h c hc), List.flatMap_singleton']
  rwa [hsame] at hescaped

/-- From the end of the text, up to where everything still has its partner. -/
theorem reads_braceEnd {t : Text} (h : Enclosed t) :
    Reads {} (t ++ ['}']) { closers := ['}'] } := by
  have hclose : Reads {} ['}'] { closers := ['}'] } := reads_char fun _ => .closing rfl (.inr rfl)
  exact hclose.append (reads_enclosed h rfl (List.cons_ne_nil _ _))

section

variable {name text : Text} (hletters : ∀ c ∈ name, c.isAlpha = true)
include hletters

theorem isAlphanumeric_of_mem {c : Char} (hc : c ∈ name) : Text.isAlphanumeric c = true := by
  have halpha := hletters c hc
  refine Text.isAlphanumeric_of_isAlphanum (Text.lt_of_isAlpha halpha) ?_
  simp [Char.isAlphanum, halpha]

theorem notMem_name {c : Char} (hc : Text.isAlphanumeric c = false) : c ∉ name := by
  intro hmem
  rw [isAlphanumeric_of_mem hletters hmem] at hc
  cases hc

open Abbreviation in
/-- The parser takes the text as it is. -/
theorem parse_braced (hname : name ≠ []) (htext : ∀ c ∈ text, c ∉ ['\\', '{', '}']) :
    parse (braced name text) = .ok [.element { name := some name, text := some text } []] := by
  have hchars : ∀ c ∈ name, isNameChar c = true := by
    intro c hc
    simp [isNameChar, isAlphanumeric_of_mem hletters hc]
  have hstop : ∀ c ∈ ('{' :: (text ++ ['}'])).head?, isNameChar c = false := by
    rintro c ⟨⟩
    decide
  obtain ⟨first, letters, rfl⟩ := List.exists_cons_of_ne_nil hname
  have htrim : Text.Trimmed (braced (first :: letters) text) := by
    refine Text.trimmed_of_ends rfl (isBlank_of_isNameChar (hchars first List.mem_cons_self))
      ?_ (by decide : Text.isBlank '}' = false)
    rw [braced, ← List.cons_append, ← List.append_assoc, List.getLast?_concat]
  have helement : readElement (braced (first :: letters) text)
      = .ok ({ name := some (first :: letters), text := some text }, []) :=
    calc readElement (braced (first :: letters) text)
      _ = readParts { name := some (first :: letters) } ('{' :: (text ++ ['}'])) := by
        rw [braced, readElement_named hname (Text.takeWhile_append_run hchars hstop),
          Text.dropWhile_append_run hchars hstop]
      _ = readParts { name := some (first :: letters), text := some text } [] :=
        readParts_text _ (readText_plain htext)
      _ = .ok ({ name := some (first :: letters), text := some text }, []) :=
        readParts_followsItem _ followsItem_nil
  have hgroup : (braced (first :: letters) text).head? ≠ some '(' := by
    rintro ⟨⟩
    exact notMem_name hletters (by decide) List.mem_cons_self
  rw [parse_trimmed htrim, readItem_element (by decide) hgroup helement, readOperator_nil]
  rfl

/-- The name is taken character by character. -/
theorem reads_name : Reads {} name {} := by
  induction name with
  | nil => exact reads_nil
  | cons c name ih =>
    have hc := isAlphanumeric_of_mem hletters List.mem_cons_self
    have htag : c ≠ '>' := by
      rintro rfl
      exact absurd hc (by decide)
    exact (ih (List.forall_mem_cons.1 hletters).2).append
      (reads_char fun _ => .outside rfl rfl (.inl hc) fun heq => absurd heq htag)

theorem extract_of_enclosed (hname : name ≠ []) (h : Enclosed text) :
    extract (braced name text) = some ([], braced name text) := by
  have hopen : Reads { closers := ['}'] } ['{'] {} :=
    reads_char fun _ => .opening rfl rfl (.inr rfl)
  have hall : Reads {} (braced name text) {} :=
    ((reads_braceEnd h).append hopen).append (reads_name hletters)
  obtain ⟨first, letters, rfl⟩ := List.exists_cons_of_ne_nil hname
  have hstart : isBadStart first = false := by
    have hbad : ∀ c ∈ ['>', '+', '^', '*', '/', ')'], Text.isAlphanumeric c = false :=
      List.all_iff_forall_prop.1 (by decide)
    rw [isBadStart, List.contains_eq_mem, decide_eq_false_iff_not]
    intro hmem
    exact notMem_name hletters (hbad first hmem) List.mem_cons_self
  refine extract_eq_some_iff.2 ⟨first, _, rfl, hstart, ?_⟩
  have hscan := hall [] []
  rwa [List.append_nil, List.append_nil] at hscan

/-- An open quote takes the opening brace and the name into the quotation. -/
theorem extract_of_open {quote : Char} {body rest : Text} (hkind : quote = '"' ∨ quote = '\'')
    (hbody : quote ∉ body) (hrest : Enclosed rest) :
    extract (braced name (body ++ quote :: rest)) = none := by
  have hquote : Reads { closers := ['}'] } [quote] { closers := ['}'], quote := some quote } :=
    reads_char fun _ => .quote rfl (List.cons_ne_nil _ _) hkind
  have hnot : quote ∉ name ++ '{' :: body := by
    have hbrace : quote ≠ '{' ∧ Text.isAlphanumeric quote = false := by
      obtain rfl | rfl := hkind <;> decide
    simp [hbrace.1, hbody, notMem_name hletters hbrace.2]
  have hbefore : Reads { closers := ['}'], quote := some quote } (name ++ '{' :: body)
      { closers := ['}'], quote := some quote } := reads_inQuote rfl hnot
  have hline : braced name (body ++ quote :: rest)
      = name ++ '{' :: body ++ ([quote] ++ (rest ++ ['}'])) := by
    simp [braced]
  -- The line is over, and the quote is still open.
  have hscan := ((reads_braceEnd hrest).append hquote).append hbefore [] []
  rw [List.append_nil] at hscan
  rw [extract, hline, hscan]
  rfl

end

/-- The parser accepts every text without brackets and backslashes and takes it as it is. The
extractor finds the element from its first to its last character if every quote in the text has its
partner, so in particular if there are no quotes. Otherwise it finds nothing. -/
theorem extract_braced {name text : Text} (hname : name ≠ [])
    (hletters : ∀ c ∈ name, c.isAlpha = true)
    (htext : ∀ c ∈ text, c ∉ ['{', '}', '[', ']', '\\', '<', '>']) :
    Abbreviation.parse (braced name text)
      = .ok [.element { name := some name, text := some text } []] ∧
    (Enclosed text → extract (braced name text) = some ([], braced name text)) ∧
    (¬ Enclosed text → extract (braced name text) = none) ∧
    ('"' ∉ text ∧ '\'' ∉ text → extract (braced name text) = some ([], braced name text)) := by
  refine ⟨?_, extract_of_enclosed hletters hname, ?_, ?_⟩
  · have hspecial : ['\\', '{', '}'] ⊆ ['{', '}', '[', ']', '\\', '<', '>'] := by decide
    exact parse_braced hletters hname fun c hc hmem => htext c hc (hspecial hmem)
  · intro hopen
    have hbrackets : ['[', ']', '{', '}'] ⊆ ['{', '}', '[', ']', '\\', '<', '>'] := by decide
    obtain henclosed | ⟨quote, body, rest, hkind, rfl, hbody, hrest⟩ :=
      enclosed_or_open fun c hc hmem => htext c hc (hbrackets hmem)
    · exact absurd henclosed hopen
    · exact extract_of_open hletters hkind hbody hrest
  · rintro ⟨hdouble, hsingle⟩
    refine extract_of_enclosed hletters hname (enclosed_of_forall ?_)
    intro c hc
    have hnot := htext c hc
    simp only [List.mem_cons, not_or] at hnot
    simp [hnot, ne_of_mem_of_not_mem hc hdouble, ne_of_mem_of_not_mem hc hsingle]

/-- An apostrophe between two quotes has no need of a partner. -/
theorem extract_braced_quotation :
    Enclosed "say \"it's\"" ∧
    Abbreviation.parse "em\x7bsay \"it's\"\x7d"
      = .ok [.element { name := some "em", text := some "say \"it's\"" } []] ∧
    extract "em\x7bsay \"it's\"\x7d" = some ([], "em\x7bsay \"it's\"\x7d".toList) := by
  have hquoted : Enclosed ('"' :: ("it's".toList ++ '"' :: [])) :=
    .quoted (.inl rfl) (by decide) .nil
  have henclosed : Enclosed "say \"it's\"" :=
    .char (by decide) (.char (by decide) (.char (by decide) (.char (by decide) hquoted)))
  have hletters : ∀ c ∈ "em".toList, c.isAlpha = true := List.all_eq_true.1 (by decide)
  have htext : ∀ c ∈ "say \"it's\"".toList, c ∉ ['{', '}', '[', ']', '\\', '<', '>'] :=
    List.all_iff_forall_prop.1 (by decide)
  obtain ⟨hparse, hextract, -, -⟩ := extract_braced (by decide) hletters htext
  exact ⟨henclosed, hparse, hextract henclosed⟩

/-- An apostrophe alone hides the element from the extractor, though not from the parser. -/
theorem extract_apostrophe :
    braced "p" "it's" = "p\x7bit's\x7d".toList ∧
    Abbreviation.parse (braced "p" "it's")
      = .ok [.element { name := some "p", text := some "it's" } []] ∧
    extract (braced "p" "it's") = none := by
  have hletters : ∀ c ∈ "p".toList, c.isAlpha = true := List.all_eq_true.1 (by decide)
  have htext : ∀ c ∈ "it's".toList, c ∉ ['\\', '{', '}'] := List.all_iff_forall_prop.1 (by decide)
  exact ⟨by decide, parse_braced hletters (by decide) htext, by decide +kernel⟩

end Completion

end Shorthand
