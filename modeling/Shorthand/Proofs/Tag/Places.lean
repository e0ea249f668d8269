import Shorthand.Proofs.Document.Offset
import Shorthand.Tag.Scanner

/-!
# `Shorthand.Proofs.Tag.Places`: where tags stand

A tag's place is counted in bytes over the pieces before it. So the tags of pieces that are
put together are the tags of the first ones, and behind them the tags of the others moved by
the size of the first (`ofPieces_append`, `ofPieces_add`).

`InOrder` says of tags that each has a text of its own and starts where the one before it
has ended, or later. The tags of every document are in order (`inOrder_scan`).
-/

set_option autoImplicit false

namespace Shorthand

namespace Tag

/-! ### Pieces put together -/

/-- The number of bytes of pieces. -/
def size (ps : List Piece) : Nat :=
  Text.utf8Size (ps.map Piece.source).flatten

theorem size_cons (piece : Piece) (ps : List Piece) :
    size (piece :: ps) = Text.utf8Size piece.source + size ps := by
  rw [size, List.map_cons, List.flatten_cons, Text.utf8Size_append, size]

theorem size_pieces (s : Text) : size (pieces s) = Text.utf8Size s := by
  rw [size, source_pieces]

theorem ofPieces_append (offset : Nat) (ps more : List Piece) :
    ofPieces offset (ps ++ more) = ofPieces offset ps ++ ofPieces (offset + size ps) more := by
  induction ps generalizing offset with
  | nil => rfl
  | cons piece ps ih =>
    rw [size_cons, ← Nat.add_assoc]
    cases piece with
    | plain source => rw [List.cons_append, ofPieces, ofPieces, ih, Piece.source]
    | tag kind name source =>
      rw [List.cons_append, ofPieces, ofPieces, ih, Piece.source, List.cons_append]

/-- The tag `n` bytes further on. -/
def shift (n : Nat) (t : Tag) : Tag :=
  { t with start := n + t.start, stop := n + t.stop }

theorem ofPieces_add (n offset : Nat) (ps : List Piece) :
    ofPieces (n + offset) ps = (ofPieces offset ps).map (shift n) := by
  induction ps generalizing offset with
  | nil => rfl
  | cons piece ps ih =>
    cases piece with
    | plain source => rw [ofPieces, ofPieces, Nat.add_assoc, ih]
    | tag kind name source => rw [ofPieces, ofPieces, Nat.add_assoc, ih, List.map_cons, shift]

/-- The tags of pieces behind `n` bytes are those of a document of their own, moved. -/
theorem ofPieces_pieces (n : Nat) (s : Text) :
    ofPieces n (pieces s) = (scan s).map (shift n) :=
  ofPieces_add n 0 (pieces s)

/-! ### Order -/

/-- Each tag has a text, and starts where the one before it has ended or later. -/
structure InOrder (tags : List Tag) : Prop where
  start_lt_stop : ∀ t ∈ tags, t.start < t.stop
  stop_le_start : tags.Pairwise fun t next => t.stop ≤ next.start

theorem InOrder.sublist {tags others : List Tag} (h : InOrder tags) (hsub : others.Sublist tags) :
    InOrder others where
  start_lt_stop t ht := h.start_lt_stop t (hsub.subset ht)
  stop_le_start := h.stop_le_start.sublist hsub

/-- A piece found in one step is text without tags, or the tag that was read. -/
theorem mem_lexeme {s : Text} {piece : Piece} (h : piece ∈ (lexeme s).1) :
    (∃ source, piece = .plain source) ∨ ∃ rest, readTag? s = some (piece, rest) := by
  -- A comment, a data section, a declaration and a lone bracket are text. The body of a raw
  -- text element is a second piece behind its tag, and is text as well.
  unfold lexeme at h
  split at h
  · exact .inl ⟨_, List.mem_singleton.1 h⟩
  · split at h
    · exact .inl ⟨_, List.mem_singleton.1 h⟩
    · split at h
      · exact .inl ⟨_, List.mem_singleton.1 h⟩
      · split at h
        · exact .inl ⟨_, List.mem_singleton.1 h⟩
        · rename_i name source rest hread
          split at h
          · obtain rfl | hbody := List.mem_cons.1 h
            · exact .inr ⟨rest, hread⟩
            · exact .inl ⟨_, List.mem_singleton.1 hbody⟩
          · obtain rfl := List.mem_singleton.1 h
            exact .inr ⟨rest, hread⟩
        · rename_i found rest _ hread
          obtain rfl := List.mem_singleton.1 h
          exact .inr ⟨rest, hread⟩

/-- A tag among the pieces of a document was read at some place. -/
theorem exists_readTag?_of_mem {s : Text} {kind : Kind} {name source : Text}
    (h : .tag kind name source ∈ pieces s) :
    ∃ t after, readTag? t = some (.tag kind name source, after) := by
  fun_induction pieces s with
  | case1 => simp at h
  | case2 rest ih =>
    obtain hlexeme | hmore := List.mem_append.1 h
    · obtain ⟨_, hplain⟩ | ⟨after, hread⟩ := mem_lexeme hlexeme
      · cases hplain
      · exact ⟨rest, after, hread⟩
    · exact ih hmore
  | case3 c rest _ ih =>
    obtain hplain | hmore := List.mem_cons.1 h
    · cases hplain
    · exact ih hmore

theorem source_ne_nil {s source name : Text} {kind : Kind}
    (h : .tag kind name source ∈ pieces s) : source ≠ [] := by
  obtain ⟨t, after, hread⟩ := exists_readTag?_of_mem h
  exact List.ne_nil_of_length_pos (append_readTag? hread).1

theorem le_start_of_mem_ofPieces {offset : Nat} {ps : List Piece} {t : Tag}
    (h : t ∈ ofPieces offset ps) : offset ≤ t.start := by
  induction ps generalizing offset with
  | nil => simp [ofPieces] at h
  | cons piece ps ih =>
    cases piece with
    | plain source => exact Nat.le_of_add_right_le (ih h)
    | tag kind name source =>
      obtain rfl | hmore := List.mem_cons.1 h
      · exact Nat.le_refl offset
      · exact Nat.le_of_add_right_le (ih hmore)

theorem inOrder_ofPieces (offset : Nat) {ps : List Piece}
    (h : ∀ kind name source, .tag kind name source ∈ ps → source ≠ []) :
    InOrder (ofPieces offset ps) := by
  induction ps generalizing offset with
  | nil => exact ⟨by simp [ofPieces], List.Pairwise.nil⟩
  | cons piece ps ih =>
    have hmore (n : Nat) := ih n fun kind name source hmem =>
      h kind name source (List.mem_cons_of_mem piece hmem)
    cases piece with
    | plain source => exact hmore _
    | tag kind name source =>
      -- The tags to come start where this one stops, or later.
      have hpos := Text.utf8Size_pos (h kind name source List.mem_cons_self)
      refine ⟨?_, List.pairwise_cons.2 ⟨?_, (hmore _).stop_le_start⟩⟩
      · intro t ht
        obtain rfl | ht := List.mem_cons.1 ht
        · exact Nat.lt_add_of_pos_right hpos
        · exact (hmore _).start_lt_stop t ht
      · intro next hnext
        exact le_start_of_mem_ofPieces hnext

/-- The tags of a document do not overlap, and stand from left to right. -/
theorem inOrder_scan (s : Text) : InOrder (scan s) :=
  inOrder_ofPieces 0 fun _ _ _ hmem => source_ne_nil hmem

end Tag

end Shorthand
