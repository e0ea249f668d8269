import Shorthand.GrammarAt
import Shorthand.Proofs.Tag.Innermost
import Shorthand.Proofs.Tag.OpaqueBody

/-!
# `Shorthand.Proofs.Grammar.StyleElement`: when the body of a style element is `css`

Four places have a say in the grammar inside a style element. The scanner knows the element
and finds the end of its body in any letter case, and a region counts as a style element in
any letter case as well. But the two tags are paired only if they are spelled alike.

`grammarAt_style_iff` says what follows. The grammar of a body is `css` if its two tags are
spelled alike. If they are not, the opening tag stays without a partner at the end of its
body, and the grammar is `css` only if the opening tag finds a partner further on (`Closes`),
or if the language of the document has this grammar anyway. `grammarAt_mixedCase` is a
document in which neither is so.
-/

set_option autoImplicit false

namespace Shorthand

namespace Region

/-! ### A partner further on -/

/-- Behind an opening tag of a name, some tags hold its partner: a closing tag of that name
where all opening tags between the two have found their own. -/
def Closes (name : Text) (tags : List Tag) : Prop :=
  ∃ before closing after, tags = before ++ closing :: after ∧ closing.kind = .closing ∧
    closing.name = name ∧ pending [] before = []

theorem closes_cons_closing {name : Text} {tag : Tag} (h : tag.kind = .closing)
    (rest : List Tag) : Closes name (tag :: rest) ↔ tag.name = name ∨ Closes name rest := by
  have hpush : push [] tag = [] := by simp [push, h]
  constructor
  · rintro ⟨before, closing, after, htags, hkind, hname, hpending⟩
    cases before with
    | nil =>
      obtain ⟨rfl, -⟩ := List.cons.inj htags
      exact .inl hname
    | cons first before =>
      obtain ⟨rfl, rfl⟩ := List.cons.inj htags
      rw [pending_cons, hpush] at hpending
      exact .inr ⟨before, closing, after, rfl, hkind, hname, hpending⟩
  · rintro (hname | ⟨before, closing, after, rfl, hkind, hname, hpending⟩)
    · exact ⟨[], tag, rest, rfl, h, hname, rfl⟩
    · refine ⟨tag :: before, closing, after, rfl, hkind, hname, ?_⟩
      rw [pending_cons, hpush]
      exact hpending

theorem push_shift (n : Nat) (stack : List Tag) (tag : Tag) :
    push (stack.map (Tag.shift n)) (tag.shift n) = (push stack tag).map (Tag.shift n) := by
  cases hkind : tag.kind with
  | opening => simp [push, Tag.shift, hkind]
  | selfClosing => simp [push, Tag.shift, hkind]
  | closing =>
    cases stack with
    | nil => simp [push, Tag.shift, hkind]
    | cons top below =>
      by_cases hname : top.name = tag.name <;> simp [push, Tag.shift, hkind, hname]

theorem pending_shift (n : Nat) (stack tags : List Tag) :
    pending (stack.map (Tag.shift n)) (tags.map (Tag.shift n))
      = (pending stack tags).map (Tag.shift n) := by
  induction tags generalizing stack with
  | nil => rfl
  | cons tag rest ih =>
    rw [List.map_cons, pending_cons, push_shift, pending_cons]
    exact ih (push stack tag)

/-- Where the tags stand does not matter. -/
theorem closes_shift {name : Text} {n : Nat} {tags : List Tag} :
    Closes name (tags.map (Tag.shift n)) ↔ Closes name tags := by
  constructor
  · rintro ⟨before, closing, after, htags, hkind, hname, hpending⟩
    obtain ⟨before, later, rfl, rfl, hlater⟩ := List.map_eq_append_iff.1 htags
    obtain ⟨closing, after, rfl, rfl, rfl⟩ := List.map_eq_cons_iff.1 hlater
    have hnone : (pending [] before).map (Tag.shift n) = [] :=
      (pending_shift n [] before).symm.trans hpending
    exact ⟨before, closing, after, rfl, hkind, hname, List.map_eq_nil_iff.1 hnone⟩
  · rintro ⟨before, closing, after, rfl, hkind, hname, hpending⟩
    refine ⟨before.map (Tag.shift n), closing.shift n, after.map (Tag.shift n), by simp, hkind,
      hname, ?_⟩
    have hshift := pending_shift n [] before
    rwa [hpending] at hshift

/-- An opening tag at the bottom of the stack stays there until a closing tag of its name comes
when nothing stands above it. -/
theorem pending_concat (opening : Tag) (stack tags : List Tag) :
    pending (stack ++ [opening]) tags = pending stack tags ++ [opening] ∨
      ∃ before closing after, tags = before ++ closing :: after ∧ closing.kind = .closing ∧
        closing.name = opening.name ∧ pending (stack ++ [opening]) before = [opening] ∧
        pending stack before = [] := by
  induction tags generalizing stack with
  | nil => exact .inl rfl
  | cons tag rest ih =>
    -- Either the bottom is on top and the tag is its partner, or the tag does not reach it.
    by_cases htop : stack = [] ∧ tag.kind = .closing ∧ tag.name = opening.name
    · obtain ⟨rfl, hkind, hname⟩ := htop
      exact .inr ⟨[], tag, rest, rfl, hkind, hname, rfl, rfl⟩
    · have hpush : push (stack ++ [opening]) tag = push stack tag ++ [opening] := by
        cases hkind : tag.kind with
        | opening => simp [push, hkind]
        | selfClosing => simp [push, hkind]
        | closing =>
          cases stack with
          | nil =>
            have hname : ¬opening.name = tag.name := fun heq => htop ⟨rfl, hkind, heq.symm⟩
            simp [push, hkind, hname]
          | cons top below =>
            by_cases hname : top.name = tag.name <;> simp [push, hkind, hname]
      obtain hstays | ⟨before, closing, after, rfl, hkind, hname, hbottom, hnone⟩ :=
        ih (push stack tag)
      · left
        rw [pending_cons, hpush, pending_cons]
        exact hstays
      · refine .inr ⟨tag :: before, closing, after, rfl, hkind, hname, ?_, hnone⟩
        rw [pending_cons, hpush]
        exact hbottom

/-- The opening tag alone on the stack finds a partner if and only if the tags hold one. -/
theorem exists_partner_iff {opening : Tag} {tags : List Tag} (h : opening ∉ tags) :
    (∃ before closing after below, tags = before ++ closing :: after ∧
      closing.kind = .closing ∧ pending [opening] before = opening :: below ∧
      opening.name = closing.name) ↔ Closes opening.name tags := by
  constructor
  · rintro ⟨before, closing, after, below, rfl, hkind, htop, hname⟩
    obtain hstays | ⟨first, partner, more, rfl, hpartner, hsame, -, hnone⟩ :=
      pending_concat opening [] before
    · -- Nothing stands above the opening tag, since it is on top and none of the tags is it.
      refine ⟨before, closing, after, rfl, hkind, hname.symm, ?_⟩
      cases hpending : pending [] before with
      | nil => rfl
      | cons top more =>
        rw [List.nil_append, htop, hpending] at hstays
        obtain ⟨rfl, -⟩ := List.cons.inj hstays
        have hmem : opening ∈ pending [] before := by rw [hpending]; exact List.mem_cons_self
        have hbefore := (mem_pending hmem).resolve_left (List.not_mem_nil)
        exact absurd (List.mem_append_left _ hbefore) h
    · exact ⟨first, partner, more ++ closing :: after, by simp, hpartner, hsame, hnone⟩
  · rintro ⟨before, closing, after, rfl, hkind, hname, hpending⟩
    obtain hstays | ⟨first, partner, more, rfl, hpartner, hsame, hbottom, -⟩ :=
      pending_concat opening [] before
    · rw [hpending] at hstays
      exact ⟨before, closing, after, [], rfl, hkind, hstays, hname.symm⟩
    · exact ⟨first, partner, more ++ closing :: after, [], by simp, hpartner, hbottom, hsame.symm⟩

/-! ### A place between the first tag and the others -/

section

variable {s : Text} {opening : Tag} {tags : List Tag} {offset : Nat}
  (hscan : Tag.scan s = opening :: tags) (hkind : opening.kind = .opening)
  (hfrom : opening.start < offset) (hto : ∀ t ∈ tags, offset ≤ t.start)
include hscan hkind hfrom hto

/-- A region around such a place starts with the first tag. -/
theorem closes_of_encloses {r : Region} (hr : Delimits [] (Tag.scan s) r)
    (hencloses : r.encloses offset = true) :
    r.name = opening.name ∧ Closes opening.name tags := by
  rw [hscan] at hr
  have hstart := (encloses_iff.1 hencloses).1
  have heq (t : Tag) (ht : t ∈ opening :: tags) (hlt : t.start < offset) : t = opening :=
    (List.mem_cons.1 ht).resolve_right fun hmem => Nat.not_lt.2 (hto t hmem) hlt
  have hnotMem : opening ∉ tags := fun hmem => Nat.not_lt.2 (hto opening hmem) hfrom
  -- The region starts before the place, and only the first tag does.
  obtain @⟨before, after, tag, htags, hself⟩ | @⟨before, after, below, first, closing, htags,
    hclosing, htop, hname⟩ := hr
  · have hmem : tag ∈ opening :: tags := by simp [htags]
    rw [heq tag hmem hstart, hkind] at hself
    cases hself
  · cases before with
    | nil => cases htop
    | cons t before =>
      obtain ⟨rfl, rfl⟩ := List.cons.inj htags
      have hfirst : first ∈ pending [] (opening :: before) := by
        rw [htop]
        exact List.mem_cons_self
      have hbefore := (mem_pending hfirst).resolve_left List.not_mem_nil
      have hmem : first ∈ opening :: (before ++ closing :: after) :=
        List.cons_subset_cons _ (List.subset_append_left _ _) hbefore
      obtain rfl := heq first hmem hstart
      have hpush : push [] first = [first] := by simp [push, hkind]
      rw [pending_cons, hpush] at htop
      exact ⟨rfl, (exists_partner_iff hnotMem).1
        ⟨before, closing, after, below, rfl, hclosing, htop, hname⟩⟩

theorem exists_encloses (h : Closes opening.name tags) :
    ∃ r, Delimits [] (Tag.scan s) r ∧ r.encloses offset = true := by
  have hnotMem : opening ∉ tags := fun hmem => Nat.not_lt.2 (hto opening hmem) hfrom
  obtain ⟨before, closing, after, below, rfl, hclosing, htop, hname⟩ :=
    (exists_partner_iff hnotMem).2 h
  have hpending : pending [] (opening :: before) = opening :: below := by
    rw [pending_cons, push, hkind]
    exact htop
  -- The partner is one of the tags behind the place, so it ends behind it too.
  have hstop : offset < closing.stop := by
    have hlt : closing.start < closing.stop :=
      (Tag.inOrder_scan s).start_lt_stop closing (by simp [hscan])
    exact Nat.lt_of_le_of_lt (hto closing (by simp)) hlt
  exact ⟨ofPair opening closing, .pair (by rw [hscan, List.cons_append]) hclosing hpending hname,
    encloses_iff.2 ⟨hfrom, hstop⟩⟩

/-- The region found is that of the first tag, if this has a partner. Otherwise there is
none. -/
theorem at?_between :
    (Closes opening.name tags ∧ ∃ r, at? s offset = some r ∧ r.name = opening.name) ∨
      (¬Closes opening.name tags ∧ at? s offset = none) := by
  cases hfound : at? s offset with
  | some r =>
    obtain ⟨hmem, hencloses⟩ := mem_all_of_at? hfound
    obtain ⟨hname, hcloses⟩ :=
      closes_of_encloses hscan hkind hfrom hto (mem_all_iff.1 hmem) hencloses
    exact .inl ⟨hcloses, r, rfl, hname⟩
  | none =>
    refine .inr ⟨fun hcloses => ?_, rfl⟩
    obtain ⟨r, hr, hencloses⟩ := exists_encloses hscan hkind hfrom hto hcloses
    rw [at?_eq_none_iff.1 hfound r hr] at hencloses
    cases hencloses

end

end Region

theorem Tag.scan_plain {s : Text} (h : '<' ∉ s) : Tag.scan s = [] := by
  have hlabels := Tag.map_label_scan s
  rw [(Tag.reads_plain h).labels] at hlabels
  exact List.map_eq_nil_iff.1 hlabels

namespace Session

theorem styleGrammar?_of_at? {s : Text} {offset : Nat} {r : Region}
    (h : Region.at? s offset = some r) (hname : Text.toLower r.name = "style".toList) :
    styleGrammar? s offset = some "css".toList := by
  have hstyle : Text.eqIgnoreCase r.name "style" = true := by
    rw [Text.eqIgnoreCase, hname]
    decide
  rw [styleGrammar?, h]
  exact if_pos hstyle

/-- In the body of a style element, the element counts if and only if its opening tag has a
partner, at the end of the body or further on. -/
theorem styleGrammar?_style {before opener body closer : Text} (hbefore : '<' ∉ before)
    (hopener : Text.toLower opener = "style".toList)
    (hcloser : Text.toLower closer = "style".toList)
    (hbody : ¬"</style".toList <:+: Text.toLower body) (after : Text) {offset : Nat}
    (hfrom : Text.utf8Size before + 7 ≤ offset)
    (hto : offset ≤ Text.utf8Size before + 7 + Text.utf8Size body) :
    ((opener = closer ∨ Region.Closes opener (Tag.scan after)) ∧
      styleGrammar? (before ++ Tag.element opener body closer ++ after) offset
        = some "css".toList) ∨
    (¬(opener = closer ∨ Region.Closes opener (Tag.scan after)) ∧
      styleGrammar? (before ++ Tag.element opener body closer ++ after) offset = none) := by
  have hcomplete : Tag.IsComplete before := by
    have hplain := Tag.IsComplete.plain hbefore .nil
    rwa [List.append_nil] at hplain
  have hscan := Tag.scan_style hcomplete hopener hcloser hbody after
  rw [Tag.scan_plain hbefore, List.nil_append, List.cons_append, List.cons_append,
    List.nil_append] at hscan
  have hstart : Text.utf8Size before < offset := by omega
  have hbetween := Region.at?_between hscan rfl hstart fun t ht => by
    obtain rfl | hmem := List.mem_cons.1 ht
    · exact hto
    · obtain ⟨later, -, rfl⟩ := List.mem_map.1 hmem
      show offset ≤ Text.utf8Size before + 7 + Text.utf8Size body + 8 + later.start
      omega
  -- The first closing tag is that of the element, and it is the partner under the same name.
  rw [Region.closes_cons_closing rfl, Region.closes_shift, eq_comm] at hbetween
  obtain ⟨hcloses, r, hfound, hname⟩ | ⟨hcloses, hnone⟩ := hbetween
  · exact .inl ⟨hcloses, styleGrammar?_of_at? hfound (by rw [hname]; exact hopener)⟩
  · exact .inr ⟨hcloses, by rw [styleGrammar?, hnone]⟩

/-- At every place in the body of a style element, its ends included, the grammar is `css` if
and only if the two tags are spelled alike, or the opening tag finds a partner behind them, or
`css` is the grammar of the document's language. The element stands behind a text without
brackets, and no included language overrides the grammar. -/
theorem grammarAt_style_iff {session : Session} {document : Document} {position : Position}
    {before opener body closer after : Text} (hbefore : '<' ∉ before)
    (hopener : Text.toLower opener = "style".toList)
    (hcloser : Text.toLower closer = "style".toList)
    (hbody : ¬"</style".toList <:+: Text.toLower body)
    (htext : document.text = before ++ Tag.element opener body closer ++ after)
    (hincluded : session.included? document.language = none)
    (hfrom : Text.utf8Size before + 7 ≤ Text.offsetAt document.text position)
    (hto : Text.offsetAt document.text position ≤ Text.utf8Size before + 7 + Text.utf8Size body) :
    session.grammarAt document position = "css".toList ↔
      opener = closer ∨ Region.Closes opener (Tag.scan after) ∨
        Grammar.ofLanguage? document.language = some "css".toList := by
  have hgrammar : session.grammarAt document position
      = ((styleGrammar? document.text (Text.offsetAt document.text position)).or
          (Grammar.ofLanguage? document.language)).getD Grammar.default := by
    simp only [grammarAt, hincluded, Option.getD_none]
  rw [hgrammar, ← or_assoc]
  have hstyle := styleGrammar?_style hbefore hopener hcloser hbody after hfrom hto
  rw [← htext] at hstyle
  obtain ⟨hcloses, hcss⟩ | ⟨hcloses, hnone⟩ := hstyle
  · rw [hcss]
    exact iff_of_true rfl (.inl hcloses)
  · -- Without a style element the language decides, and the default is another grammar.
    rw [hnone, Option.none_or, or_iff_right hcloses]
    cases Grammar.ofLanguage? document.language with
    | none => exact iff_of_false (by decide) (by simp)
    | some grammar => simp

/-- A document with a style element whose opening tag is in capitals. -/
def capitals (closer after : Text) : Document :=
  { language := "html", version := 1,
    text := "a ".toList ++ Tag.element "STYLE" "b<i>" closer ++ after }

theorem grammarAt_style_iff_capitals :
    grammarAt {} (capitals "STYLE" "</p>") ⟨0, 9⟩ = "css".toList ∧
    grammarAt {} (capitals "STYLE" "</p>") ⟨0, 13⟩ = "css".toList ∧
    grammarAt {} (capitals "style" "</STYLE>") ⟨0, 11⟩ = "css".toList := by
  have hbefore : '<' ∉ "a ".toList := by decide
  have hbody : ¬"</style".toList <:+: Text.toLower "b<i>".toList := by decide
  have hopener : Text.toLower "STYLE".toList = "style".toList := by decide
  have hcloser : Text.toLower "style".toList = "style".toList := by decide
  have hpartner : Region.Closes "STYLE" (Tag.scan "</STYLE>") :=
    ⟨[], ⟨.closing, "STYLE", 0, 8⟩, [], by decide +kernel, rfl, rfl, rfl⟩
  refine ⟨?_, ?_, ?_⟩
  · exact (grammarAt_style_iff hbefore hopener hopener hbody rfl rfl (by decide) (by decide)).2
      (.inl rfl)
  · exact (grammarAt_style_iff hbefore hopener hopener hbody rfl rfl (by decide) (by decide)).2
      (.inl rfl)
  · exact (grammarAt_style_iff hbefore hopener hcloser hbody rfl rfl (by decide) (by decide)).2
      (.inr (.inl hpartner))

/-- With its closing tag in small letters, the body of the same element is not `css`. -/
theorem grammarAt_mixedCase :
    Text.toLower "STYLE".toList = "style".toList ∧
    ¬"</style".toList <:+: Text.toLower "b<i>".toList ∧
    included? {} (capitals "style" []).language = none ∧
    Text.offsetAt (capitals "style" []).text ⟨0, 11⟩ = Text.utf8Size "a ".toList + 7 + 2 ∧
    grammarAt {} (capitals "style" []) ⟨0, 11⟩ = "html".toList := by
  decide +kernel

end Session

end Shorthand
