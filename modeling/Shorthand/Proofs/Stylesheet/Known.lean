import Shorthand.Proofs.Stylesheet.Entries
import Shorthand.Proofs.Stylesheet.Parts

/-!
# `Shorthand.Proofs.Stylesheet.Known`: what is known expands

A completion is offered for a stylesheet abbreviation only if all of its parts are known. The
test looks every part up with the exact look-up and the usual units, and it does not ask whether
a part is empty. The expansion looks the same part up again, with the fuzzy look-up and the units
of the options, and it refuses empty parts.

`expand_of_isKnown` says that the test promises enough. A known abbreviation expands, with a line
for each part, and each line has the property that the test has found. With the usual units it
has the value as well (`ShowsFound`).

An empty part is not known, unless a custom snippet has the empty name
(`ne_nil_of_isKnownPart`). For the other parts the two look-ups agree by
`Entry.declare_units` and `Entry.declare_fuzzy`.
-/

set_option autoImplicit false

namespace Shorthand

namespace Stylesheet

section

variable {grammar : Text} {registry : Registry}

/-! ### Known parts -/

/-- A part is known if the exact look-up finds a declaration with a property. -/
theorem isKnownPart_iff {part : Text} :
    isKnownPart grammar registry part = true ↔
      ∃ d, declaration grammar registry {} .exact (splitImportant part).1 = .ok d ∧
        d.property.isSome = true := by
  unfold isKnownPart
  cases declaration grammar registry {} .exact (splitImportant part).1 with
  | error e => simp
  | ok d => simp

/-- Without a snippet of the empty name, what is left of a known part is not empty. -/
theorem ne_nil_of_isKnownPart {part : Text} (hname : registry.snippet? grammar [] = none)
    (h : isKnownPart grammar registry part = true) : part ≠ [] := by
  rintro rfl
  obtain ⟨d, hd, hproperty⟩ := isKnownPart_iff.1 h
  -- An empty part has no mark of importance, so it is looked up as it is.
  have hbody : (splitImportant []).1 = [] := rfl
  rw [hbody, declaration_nil _ hname] at hd
  cases hd
  cases hproperty

/-- What the exact look-up knows has a declaration in the expansion as well. It has the same
property, it has a value if the other one does, and with the usual units it is the same one. -/
theorem declaration_of_exact {part : Text} {d : Declaration} (options : ExpandOptions)
    (h : declaration grammar registry {} .exact part = .ok d)
    (hproperty : d.property.isSome = true) :
    ∃ d', declarationIn grammar registry options part = .ok d' ∧ d'.property = d.property ∧
      d'.value.isSome = d.value.isSome ∧ (unitsOf options = {} → d' = d) := by
  rw [declaration_eq] at h
  -- First the units change and then the look-up, which asks for a property again.
  obtain ⟨d', hd', hsame, hvalue⟩ := Entry.declare_units h (unitsOf options)
  have hfuzzy := Entry.declare_fuzzy hd' (by rw [hsame]; exact hproperty)
  refine ⟨d', ?_, hsame, hvalue, ?_⟩
  · rw [declarationIn, declaration_eq]
    exact hfuzzy
  · intro hunits
    rw [hunits, h] at hd'
    exact (Except.ok.inj hd').symm

/-! ### Known abbreviations -/

/-- If every part has a declaration, all of them have lines. -/
theorem exists_readLines {declare : Text → Except ExpandError Declaration} {parts : List Text}
    (h : ∀ part ∈ parts, part ≠ [] ∧ ∃ d, declare (splitImportant part).1 = .ok d) (k : Nat) :
    ∃ lines, readLines declare k parts = .ok lines := by
  induction parts generalizing k with
  | nil => exact ⟨[], rfl⟩
  | cons part rest ih =>
    obtain ⟨hne, d, hd⟩ := h part List.mem_cons_self
    obtain ⟨lines, hlines⟩ := ih (fun p hp => h p (List.mem_cons_of_mem _ hp))
      (k + if lacksValue declare part then 1 else 0)
    rw [readLines, readLine, if_neg hne, hd]
    simp only [Except.map, hlines]
    exact ⟨_, rfl⟩

/-- A line shows what the exact look-up has found for a part: its property, and a tab stop if it
has no value. If the units are the usual ones, the line has the value that was found. -/
def ShowsFound (grammar : Text) (registry : Registry) (options : ExpandOptions) (part : Text)
    (line : Line) : Prop :=
  ∃ d property, declaration grammar registry {} .exact (splitImportant part).1 = .ok d ∧
    d.property = some property ∧ line.property = some property ∧
    line.stop?.isNone = d.value.isSome ∧
    (unitsOf options = {} → ∃ n, line.value = d.value.elim (.inr n) .inl)

theorem showsFound_of_spells {options : ExpandOptions} {part : Text} {line : Line}
    (hknown : isKnownPart grammar registry part = true)
    (h : Spells (declarationIn grammar registry options) part line) :
    ShowsFound grammar registry options part line := by
  obtain ⟨d, hd, hproperty⟩ := isKnownPart_iff.1 hknown
  obtain ⟨property, hsome⟩ := Option.isSome_iff_exists.1 hproperty
  obtain ⟨d', hd', hsame, hfilled, hunits⟩ := declaration_of_exact options hd hproperty
  obtain ⟨d'', n, hd'', hline, hvalue⟩ := h.declared
  obtain rfl : d'' = d' := Except.ok.inj (hd''.symm.trans hd')
  refine ⟨d, property, hd, hsome, ?_, ?_, ?_⟩
  · rw [hline, hsame, hsome]
  · rw [← hfilled, Line.stop?, hvalue]
    cases d''.value <;> rfl
  · intro hdefault
    rw [← hunits hdefault]
    exact ⟨n, hvalue⟩

/-- An abbreviation whose parts are all known expands, whatever the options are. It has a line
for each part, with what the exact look-up has found for it. -/
theorem expand_of_isKnown {a : Text} (options : ExpandOptions)
    (hname : registry.snippet? grammar [] = none) (htrim : Text.trim a = a)
    (h : isKnown a grammar registry = true) :
    ∃ lines, expand a grammar registry options = .ok (written (terminatorOf grammar) lines) ∧
      IsLinesOf (declarationIn grammar registry options) a lines ∧
      List.Forall₂ (ShowsFound grammar registry options) (Text.split '+' a) lines := by
  rw [isKnown, Bool.and_eq_true, bne_iff_ne, List.all_eq_true] at h
  obtain ⟨hne, hknown⟩ := h
  have htrimmed : Text.Trimmed a := by
    rw [← htrim] at hne ⊢
    exact Text.trimmed_trim hne
  have hdeclared : ∀ part ∈ Text.split '+' a, part ≠ [] ∧
      ∃ d, declarationIn grammar registry options (splitImportant part).1 = .ok d := by
    intro part hpart
    obtain ⟨d, hd, hproperty⟩ := isKnownPart_iff.1 (hknown part hpart)
    obtain ⟨d', hd', -⟩ := declaration_of_exact options hd hproperty
    exact ⟨ne_nil_of_isKnownPart hname (hknown part hpart), d', hd'⟩
  obtain ⟨lines, hlines⟩ := exists_readLines hdeclared 0
  have hspelled := isLinesOf_of_readLines hlines
  refine ⟨lines, ?_, hspelled, ?_⟩
  · rw [expand_trimmed grammar registry options htrimmed, hlines]
    rfl
  · have hboth := (List.forall₂_and_left _ _).2 ⟨hknown, hspelled.spells⟩
    exact hboth.imp fun part line hpart => showsFound_of_spells hpart.1 hpart.2

end

/-- A snippet that all stylesheets share. -/
def centred : Registry :=
  { snippets := [("css", [("cen", "text-align: center")])] }

/-- A custom snippet with a mark, a number that takes the usual unit, and a missing value. -/
theorem expand_of_isKnown_centred :
    centred.snippet? "scss" [] = none ∧ Text.trim "cen!+m10+p" = "cen!+m10+p".toList ∧
    isKnown "cen!+m10+p" "scss" centred = true ∧ unitsOf {} = {} ∧
    ∃ lines, expand "cen!+m10+p" "scss" centred {} = .ok (written (terminatorOf "scss") lines) ∧
      List.Forall₂ (ShowsFound "scss" centred {}) ["cen!".toList, "m10".toList, "p".toList]
        lines := by
  have hname : centred.snippet? "scss" [] = none := by decide
  have htrim : Text.trim "cen!+m10+p" = "cen!+m10+p".toList := by decide
  have hknown : isKnown "cen!+m10+p" "scss" centred = true := by decide +kernel
  obtain ⟨lines, hexpand, -, hfound⟩ := expand_of_isKnown {} hname htrim hknown
  exact ⟨hname, htrim, hknown, rfl, lines, hexpand, hfound⟩

end Stylesheet

end Shorthand
