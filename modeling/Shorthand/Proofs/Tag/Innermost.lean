import Mathlib.Data.List.Pairwise
import Shorthand.Proofs.Tag.Places
import Shorthand.Tag.Region

/-!
# `Shorthand.Proofs.Tag.Innermost`: the region around an offset is the innermost one

`Region.at?` takes the first region to end of those around an offset, and never compares two
regions. `at?_innermost` says that this is the innermost one: it lies inside every other
region around the offset. And it says what the regions are like, any two of them: they lie
apart, or one lies strictly inside the other.

`Delimits` says which regions there are, for a whole list of tags and without the order in
which they are found. A self-closing tag is a region. A closing tag ends one if the tags
before it leave an opening tag of the same name on top of the stack (`pending`).

The proof follows the stack. An opening tag on the stack stands before all tags that are
still to come and before the tags above it. So a region that ends later either starts behind
the one that has just ended, or starts at a tag further down the stack and contains it
(`pairwise_ofTags`).
-/

set_option autoImplicit false

namespace Shorthand

namespace Region

/-! ### The regions of a list of tags -/

/-- The region of a self-closing tag. -/
def ofTag (tag : Tag) : Region :=
  { name := tag.name, opening := (tag.start, tag.stop) }

/-- The region of an opening tag and its closing tag. -/
def ofPair (opening closing : Tag) : Region :=
  { name := opening.name, opening := (opening.start, opening.stop),
    closing := some (closing.start, closing.stop) }

/-- The opening tags without a partner behind one more tag, the last one first. -/
def push (stack : List Tag) (tag : Tag) : List Tag :=
  match tag.kind with
  | .opening => tag :: stack
  | .selfClosing => stack
  | .closing =>
    match stack with
    | [] => []
    | top :: below => if top.name = tag.name then below else top :: below

/-- The opening tags without a partner behind some tags. -/
def pending (stack tags : List Tag) : List Tag :=
  tags.foldl push stack

theorem pending_cons (stack : List Tag) (tag : Tag) (rest : List Tag) :
    pending stack (tag :: rest) = pending (push stack tag) rest :=
  List.foldl_cons ..

/-- The regions that tags delimit behind a stack of opening tags. -/
inductive Delimits (stack tags : List Tag) : Region → Prop where
  /-- A self-closing tag. -/
  | alone {before after : List Tag} {tag : Tag} (htags : tags = before ++ tag :: after)
      (hkind : tag.kind = .selfClosing) : Delimits stack tags (ofTag tag)
  /-- A closing tag under the name of the opening tag on top of the stack. -/
  | pair {before after below : List Tag} {opening closing : Tag}
      (htags : tags = before ++ closing :: after) (hkind : closing.kind = .closing)
      (htop : pending stack before = opening :: below) (hname : opening.name = closing.name) :
      Delimits stack tags (ofPair opening closing)

/-- The region lies strictly inside another. -/
def Within (r outer : Region) : Prop :=
  outer.start < r.start ∧ r.stop < outer.stop

/-- Two regions have no place in common. -/
def Apart (r other : Region) : Prop :=
  r.stop ≤ other.start ∨ other.stop ≤ r.start

/-! ### Tag by tag -/

/-- The region that ends with a tag, when there is one. -/
def ended? (stack : List Tag) (tag : Tag) : Option Region :=
  match tag.kind with
  | .opening => none
  | .selfClosing => some (ofTag tag)
  | .closing =>
    match stack with
    | [] => none
    | top :: _ => if top.name = tag.name then some (ofPair top tag) else none

theorem ofTags_cons (stack : List Tag) (tag : Tag) (rest : List Tag) :
    ofTags stack (tag :: rest) = (ended? stack tag).toList ++ ofTags (push stack tag) rest := by
  cases hkind : tag.kind with
  | opening => simp [ofTags, ended?, push, hkind]
  | selfClosing => simp [ofTags, ended?, push, hkind, ofTag]
  | closing =>
    cases stack with
    | nil => simp [ofTags, ended?, push, hkind]
    | cons top below =>
      by_cases hname : top.name = tag.name
      · simp [ofTags, ended?, push, hkind, hname, ofPair]
      · simp [ofTags, ended?, push, hkind, hname]

theorem ended?_eq_some_iff {stack : List Tag} {tag : Tag} {r : Region} :
    ended? stack tag = some r ↔
      (tag.kind = .selfClosing ∧ r = ofTag tag) ∨
      (tag.kind = .closing ∧ ∃ opening below, stack = opening :: below ∧
        opening.name = tag.name ∧ r = ofPair opening tag) := by
  unfold ended?
  cases hkind : tag.kind with
  | opening => simp
  | selfClosing => simp [eq_comm]
  | closing =>
    cases stack with
    | nil => simp
    | cons top below =>
      by_cases hname : top.name = tag.name
      · simp [hname, eq_comm]
      · simp [hname]

theorem delimits_iff_ended? {stack tags : List Tag} {r : Region} :
    Delimits stack tags r ↔
      ∃ before tag after, tags = before ++ tag :: after ∧
        ended? (pending stack before) tag = some r := by
  constructor
  · rintro (⟨htags, hkind⟩ | ⟨htags, hkind, htop, hname⟩)
    · exact ⟨_, _, _, htags, ended?_eq_some_iff.2 (.inl ⟨hkind, rfl⟩)⟩
    · exact ⟨_, _, _, htags, ended?_eq_some_iff.2 (.inr ⟨hkind, _, _, htop, hname, rfl⟩)⟩
  · rintro ⟨before, tag, after, htags, hended⟩
    obtain ⟨hkind, rfl⟩ | ⟨hkind, opening, below, htop, hname, rfl⟩ := ended?_eq_some_iff.1 hended
    · exact .alone htags hkind
    · exact .pair htags hkind htop hname

/-- The regions found are those that the tags delimit. -/
theorem mem_ofTags_iff {stack tags : List Tag} {r : Region} :
    r ∈ ofTags stack tags ↔ Delimits stack tags r := by
  rw [delimits_iff_ended?]
  induction tags generalizing stack with
  | nil => simp [ofTags]
  | cons tag rest ih =>
    -- The region ends with the first tag, or it is one of the rest behind the new stack.
    rw [ofTags_cons, List.mem_append, Option.mem_toList, ih]
    constructor
    · rintro (hended | ⟨before, closing, after, rfl, hended⟩)
      · exact ⟨[], tag, rest, rfl, hended⟩
      · exact ⟨tag :: before, closing, after, rfl, hended⟩
    · rintro ⟨before, closing, after, htags, hended⟩
      cases before with
      | nil =>
        obtain ⟨rfl, -⟩ := List.cons.inj htags
        exact .inl hended
      | cons first before =>
        obtain ⟨rfl, rfl⟩ := List.cons.inj htags
        exact .inr ⟨before, closing, after, rfl, hended⟩

theorem mem_all_iff {s : Text} {r : Region} :
    r ∈ all s ↔ Delimits [] (Tag.scan s) r :=
  mem_ofTags_iff

/-! ### Regions nest -/

/-- The stack and the tags still to come, from left to right, lose tags and gain none. -/
theorem push_sublist (stack : List Tag) (tag : Tag) (rest : List Tag) :
    ((push stack tag).reverse ++ rest).Sublist (stack.reverse ++ tag :: rest) := by
  unfold push
  split
  · simp
  · exact (List.Sublist.refl _).append (List.sublist_cons_self tag rest)
  · split
    · exact (List.Sublist.refl _).append (List.sublist_cons_self tag rest)
    · split
      · exact (List.sublist_cons_self _ _).reverse.append (List.sublist_cons_self tag rest)
      · exact (List.Sublist.refl _).append (List.sublist_cons_self tag rest)

theorem mem_push {stack : List Tag} {tag t : Tag} (h : t ∈ push stack tag) :
    t ∈ stack ∨ t = tag := by
  have hmem : t ∈ stack.reverse ++ [tag] := (push_sublist stack tag []).subset (by simpa using h)
  simpa using hmem

theorem mem_pending {stack tags : List Tag} {t : Tag} (h : t ∈ pending stack tags) :
    t ∈ stack ∨ t ∈ tags := by
  induction tags generalizing stack with
  | nil => exact .inl h
  | cons tag rest ih =>
    obtain hpush | hrest := ih h
    · obtain hstack | rfl := mem_push hpush
      · exact .inl hstack
      · exact .inr List.mem_cons_self
    · exact .inr (List.mem_cons_of_mem tag hrest)

/-- A region starts at a tag of the stack or at a tag to come, and ends at a tag to come. -/
theorem Delimits.exists_ends {stack tags : List Tag} {r : Region} (h : Delimits stack tags r) :
    (∃ first, (first ∈ stack ∨ first ∈ tags) ∧ r.start = first.start) ∧
      ∃ last ∈ tags, r.stop = last.stop := by
  obtain ⟨rfl, -⟩ | @⟨before, after, below, opening, closing, rfl, -, htop, -⟩ := h
  · have hmem : ∀ {before after : List Tag} {tag : Tag}, tag ∈ before ++ tag :: after := by simp
    exact ⟨⟨_, .inr hmem, rfl⟩, _, hmem, rfl⟩
  · have hopening : opening ∈ pending stack before := by rw [htop]; exact List.mem_cons_self
    refine ⟨⟨opening, ?_, rfl⟩, closing, by simp, rfl⟩
    exact (mem_pending hopening).imp_right (List.mem_append_left _)

/-- The region that ends with a tag lies before a region that ends later, or inside it. -/
theorem ended?_nests {stack rest : List Tag} {tag : Tag}
    (h : Tag.InOrder (stack.reverse ++ tag :: rest)) {r later : Region}
    (hended : ended? stack tag = some r) (hlater : Delimits (push stack tag) rest later) :
    r.stop ≤ later.start ∨ r.Within later := by
  obtain ⟨⟨first, hfirst, hstart⟩, last, hlast, hstop⟩ := hlater.exists_ends
  obtain ⟨hstack, hrest, hbefore⟩ := List.pairwise_append.1 h.stop_le_start
  have hahead (t : Tag) (ht : t ∈ rest) : tag.stop ≤ t.start := (List.pairwise_cons.1 hrest).1 t ht
  have hends : last.start < last.stop := h.start_lt_stop last (by simp [hlast])
  have hcontains : tag.stop < later.stop := by
    rw [hstop]
    exact Nat.lt_of_le_of_lt (hahead last hlast) hends
  have hlow (t : Tag) (ht : t ∈ stack) : t.start < t.stop := h.start_lt_stop t (by simp [ht])
  obtain ⟨hkind, rfl⟩ | ⟨hkind, opening, below, rfl, hname, rfl⟩ := ended?_eq_some_iff.1 hended
  · simp only [push, hkind] at hfirst
    obtain hfirst | hfirst := hfirst
    · -- The later region starts on the stack, so before this tag.
      have hle := hbefore first (List.mem_reverse.2 hfirst) tag List.mem_cons_self
      refine .inr ⟨?_, hcontains⟩
      rw [hstart]
      exact Nat.lt_of_lt_of_le (hlow first hfirst) hle
    · exact .inl (hstart ▸ hahead first hfirst)
  · simp only [push, hkind, if_pos hname] at hfirst
    obtain hfirst | hfirst := hfirst
    · -- The later region starts further down the stack, so before the opening tag.
      have hle : first.stop ≤ opening.start :=
        (List.pairwise_cons.1 (List.pairwise_reverse.1 hstack)).1 first hfirst
      refine .inr ⟨?_, hcontains⟩
      rw [hstart]
      exact Nat.lt_of_lt_of_le (hlow first (List.mem_cons_of_mem _ hfirst)) hle
    · exact .inl (hstart ▸ hahead first hfirst)

/-- In the order of their ends, each region lies before a later one or inside it. -/
theorem pairwise_ofTags {stack tags : List Tag} (h : Tag.InOrder (stack.reverse ++ tags)) :
    (ofTags stack tags).Pairwise fun r later => r.stop ≤ later.start ∨ r.Within later := by
  induction tags generalizing stack with
  | nil => exact List.Pairwise.nil
  | cons tag rest ih =>
    -- The stack and the tags to come stay in order, since a step only takes tags away.
    rw [ofTags_cons, List.pairwise_append]
    refine ⟨?_, ih (h.sublist (push_sublist stack tag rest)), ?_⟩
    · cases ended? stack tag <;> simp
    · intro r hr later hlater
      exact ended?_nests h (Option.mem_toList.1 hr) (mem_ofTags_iff.1 hlater)

theorem pairwise_all (s : Text) :
    (all s).Pairwise fun r later => r.stop ≤ later.start ∨ r.Within later :=
  pairwise_ofTags (Tag.inOrder_scan s)

/-! ### The first region to end -/

theorem encloses_iff {r : Region} {offset : Nat} :
    r.encloses offset = true ↔ r.start < offset ∧ offset < r.stop := by
  simp [encloses]

theorem mem_all_of_at? {s : Text} {offset : Nat} {r : Region} (h : at? s offset = some r) :
    r ∈ all s ∧ r.encloses offset = true := by
  have hencloses := List.find?_some h
  exact ⟨List.mem_of_find?_eq_some h, hencloses⟩

/-- The region found lies inside every other one around the offset. -/
theorem within_of_at? {s : Text} {offset : Nat} {r other : Region} (h : at? s offset = some r)
    (hmem : other ∈ all s) (hother : other.encloses offset = true) (hne : other ≠ r) :
    r.Within other := by
  obtain ⟨hr, before, after, hall, hbefore⟩ := List.find?_eq_some_iff_append.1 h
  rw [hall, List.mem_append, List.mem_cons] at hmem
  obtain hearlier | rfl | hlater := hmem
  · have hnot := hbefore other hearlier
    rw [hother] at hnot
    exact absurd hnot (by decide)
  · exact absurd rfl hne
  · have hpairs := pairwise_all s
    rw [hall] at hpairs
    have hnests := (List.pairwise_cons.1 (List.pairwise_append.1 hpairs).2.1).1 other hlater
    refine hnests.resolve_left fun hapart => ?_
    -- The offset lies in both regions, so one cannot end before the other starts.
    have h1 := (encloses_iff.1 hr).2
    have h2 := (encloses_iff.1 hother).1
    omega

theorem at?_eq_none_iff {s : Text} {offset : Nat} :
    at? s offset = none ↔ ∀ r, Delimits [] (Tag.scan s) r → r.encloses offset = false := by
  rw [at?, List.find?_eq_none]
  simp only [mem_all_iff, Bool.not_eq_true]

theorem at?_eq_some_iff {s : Text} {offset : Nat} {r : Region} :
    at? s offset = some r ↔
      (Delimits [] (Tag.scan s) r ∧ r.encloses offset = true) ∧
        ∀ other, Delimits [] (Tag.scan s) other → other.encloses offset = true → other ≠ r →
          r.Within other := by
  simp only [← mem_all_iff]
  constructor
  · intro h
    exact ⟨mem_all_of_at? h, fun other hmem hother hne => within_of_at? h hmem hother hne⟩
  · rintro ⟨⟨hmem, hr⟩, hinner⟩
    cases hfound : at? s offset with
    | none =>
      rw [at?_eq_none_iff.1 hfound r (mem_all_iff.1 hmem)] at hr
      cases hr
    | some found =>
      -- Two different regions would each lie strictly inside the other.
      obtain ⟨hfoundMem, hencloses⟩ := mem_all_of_at? hfound
      congr 1
      by_contra hne
      have houter := within_of_at? hfound hmem hr (Ne.symm hne)
      have hinside := hinner found hfoundMem hencloses hne
      exact Nat.lt_asymm houter.1 hinside.1

theorem apart_or_within {s : Text} {r other : Region} (h : Delimits [] (Tag.scan s) r)
    (hother : Delimits [] (Tag.scan s) other) (hne : r ≠ other) :
    r.Apart other ∨ r.Within other ∨ other.Within r := by
  -- The order of the ends is given up here, and with it the statement becomes symmetric.
  have hsymm : Std.Symm fun r other : Region =>
      r.Apart other ∨ r.Within other ∨ other.Within r :=
    ⟨fun _ _ hnested => hnested.imp Or.symm Or.symm⟩
  have hnested : (all s).Pairwise fun r other =>
      r.Apart other ∨ r.Within other ∨ other.Within r :=
    (pairwise_all s).imp fun hnests => hnests.imp Or.inl Or.inl
  exact hnested.forall (mem_all_iff.2 h) (mem_all_iff.2 hother) hne

/-- Any two regions of a document lie apart, or one lies strictly inside the other. At every
offset, no region is found if and only if none is around it, and the region found is the one
that is around it and inside every other region around it. -/
theorem at?_innermost (s : Text) :
    (∀ r other, Delimits [] (Tag.scan s) r → Delimits [] (Tag.scan s) other → r ≠ other →
      r.Apart other ∨ r.Within other ∨ other.Within r) ∧
    ∀ offset,
      (at? s offset = none ↔
        ¬∃ r, Delimits [] (Tag.scan s) r ∧ r.start < offset ∧ offset < r.stop) ∧
      ∀ r, at? s offset = some r ↔
        (Delimits [] (Tag.scan s) r ∧ r.start < offset ∧ offset < r.stop) ∧
        ∀ other, Delimits [] (Tag.scan s) other → other.start < offset ∧ offset < other.stop →
          other ≠ r → r.Within other := by
  refine ⟨fun r other => apart_or_within, fun offset => ⟨?_, fun r => ?_⟩⟩
  · rw [at?_eq_none_iff, not_exists]
    refine forall_congr' fun r => ?_
    rw [← encloses_iff, not_and, Bool.not_eq_true]
  · rw [at?_eq_some_iff]
    simp only [encloses_iff]

/-- A paragraph in a block, with a void tag and a closing tag without a partner behind it. -/
def strayClosing : Text :=
  "<div><p>hi</p><br></span></div>"

theorem at?_innermost_strayClosing :
    at? strayClosing 9 = some ⟨"p", (5, 8), some (10, 14)⟩ ∧
    Delimits [] (Tag.scan strayClosing) ⟨"div", (0, 5), some (25, 31)⟩ ∧
    Within ⟨"p", (5, 8), some (10, 14)⟩ ⟨"div", (0, 5), some (25, 31)⟩ ∧
    ¬∃ r, Delimits [] (Tag.scan strayClosing) r ∧ r.start < 31 ∧ 31 < r.stop := by
  have hparagraph : at? strayClosing 9 = some ⟨"p", (5, 8), some (10, 14)⟩ := by decide +kernel
  have hblock : Delimits [] (Tag.scan strayClosing) ⟨"div", (0, 5), some (25, 31)⟩ :=
    mem_all_iff.1 (by decide +kernel)
  have hnone : at? strayClosing 31 = none := by decide +kernel
  obtain ⟨-, hat⟩ := at?_innermost strayClosing
  refine ⟨hparagraph, hblock, ?_, (hat 31).1.1 hnone⟩
  exact (((hat 9).2 _).1 hparagraph).2 _ hblock (by decide) (by decide)

end Region

end Shorthand
