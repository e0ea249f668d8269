import Shorthand.Json.Reader

/-!
# `Shorthand.Proofs.Json.Distinct`: objects that were read name each field once

A table is a list of entries, so a list could hold a key twice, and then a look-up would find
the first entry while a walk over the list would end with the last. Of equal field names in a
JSON text the last one counts, and the reader keeps only that one. `distinct_ofBytes?` says so
for every value that is read, at every depth: what is found in such a value does not depend on
the order of its fields.
-/

set_option autoImplicit false

namespace Shorthand

namespace Dict

variable {α : Type}

/-! ### Tables that are built by insertion -/

theorem mem_of_get? {d : Dict α} {key : Text} {value : α} (h : d.get? key = some value) :
    (key, value) ∈ d := by
  induction d with
  | nil => cases h
  | cons entry rest ih =>
    obtain ⟨k, v⟩ := entry
    rw [get?] at h
    split at h
    · rename_i hk
      cases h
      rw [hk]
      exact List.mem_cons_self
    · exact List.mem_cons_of_mem _ (ih h)

/-- Where each key stands once, the value of a key is that of its entry. -/
theorem get?_eq_some_iff {d : Dict α} (hkeys : d.keys.Nodup) {key : Text} {value : α} :
    d.get? key = some value ↔ (key, value) ∈ d := by
  refine ⟨mem_of_get?, fun h => ?_⟩
  induction d with
  | nil => cases h
  | cons entry rest ih =>
    obtain ⟨k, v⟩ := entry
    obtain ⟨hk, hrest⟩ := List.nodup_cons.1 hkeys
    rw [get?]
    obtain heq | hmem := List.mem_cons.1 h
    · cases heq
      exact if_pos rfl
    · have hne : k ≠ key := fun hkey => hk (List.mem_map.2 ⟨(key, value), hmem, hkey.symm⟩)
      rw [if_neg hne, ih hrest hmem]

theorem mem_insert {d : Dict α} {key : Text} {value : α} {entry : Text × α}
    (h : entry ∈ d.insert key value) : entry = (key, value) ∨ entry ∈ d := by
  induction d with
  | nil => exact .inl (List.mem_singleton.1 h)
  | cons first rest ih =>
    obtain ⟨k, v⟩ := first
    rw [insert] at h
    split at h
    · rename_i hk
      rcases List.mem_cons.1 h with h | h
      · exact .inl (hk ▸ h)
      · exact .inr (List.mem_cons_of_mem _ h)
    · rcases List.mem_cons.1 h with h | h
      · exact .inr (h ▸ List.mem_cons_self)
      · rcases ih h with h | h
        · exact .inl h
        · exact .inr (List.mem_cons_of_mem _ h)

/-- An insertion brings no key a second time. -/
theorem nodup_keys_insert {d : Dict α} (h : d.keys.Nodup) (key : Text) (value : α) :
    (d.insert key value).keys.Nodup := by
  induction d with
  | nil => exact List.nodup_cons.2 ⟨List.not_mem_nil, List.nodup_nil⟩
  | cons first rest ih =>
    obtain ⟨k, v⟩ := first
    obtain ⟨hk, hrest⟩ := List.nodup_cons.1 h
    rw [insert]
    split
    · exact List.nodup_cons.2 ⟨hk, hrest⟩
    · rename_i hne
      refine List.nodup_cons.2 ⟨fun hmem => ?_, ih hrest⟩
      obtain ⟨entry, hentry, hname⟩ := List.mem_map.1 hmem
      rcases mem_insert hentry with rfl | hentry
      · exact hne hname.symm
      · exact hk (List.mem_map.2 ⟨entry, hentry, hname⟩)

theorem mem_extend {d e : Dict α} {entry : Text × α} (h : entry ∈ d.extend e) :
    entry ∈ d ∨ entry ∈ e := by
  induction e generalizing d with
  | nil => exact .inl h
  | cons first rest ih =>
    rcases ih h with h | h
    · rcases mem_insert h with rfl | h
      · exact .inr List.mem_cons_self
      · exact .inl h
    · exact .inr (List.mem_cons_of_mem _ h)

theorem nodup_keys_extend {d : Dict α} (h : d.keys.Nodup) (e : Dict α) :
    (d.extend e).keys.Nodup := by
  induction e generalizing d with
  | nil => exact h
  | cons first rest ih => exact ih (nodup_keys_insert h first.1 first.2)

end Dict

namespace Json

/-! ### Values that were read -/

/-- Each object in a value names each of its fields once. -/
inductive Distinct : Json → Prop where
  | null : Distinct null
  | bool (value : Bool) : Distinct (bool value)
  | num (value : Decimal) : Distinct (num value)
  | str (value : Text) : Distinct (str value)
  | arr {items : List Json} (hitems : ∀ item ∈ items, Distinct item) : Distinct (arr items)
  | obj {fields : List (Text × Json)} (hkeys : (Dict.keys fields).Nodup)
      (hfields : ∀ field ∈ fields, Distinct field.2) : Distinct (obj fields)

theorem Distinct.nodup {fields : Dict Json} (h : (Json.obj fields).Distinct) :
    fields.keys.Nodup := by
  cases h with
  | obj hkeys _ => exact hkeys

theorem Distinct.entry {fields : Dict Json} (h : (Json.obj fields).Distinct) {entry : Text × Json}
    (hentry : entry ∈ fields) : entry.2.Distinct := by
  cases h with
  | obj _ hfields => exact hfields entry hentry

theorem Distinct.get? {fields : Dict Json} (h : (Json.obj fields).Distinct) {name : Text}
    {value : Json} (hvalue : fields.get? name = some value) : value.Distinct :=
  h.entry (Dict.mem_of_get? hvalue)

theorem distinct_ofEntries {entries : List (Text × Json)}
    (h : ∀ entry ∈ entries, Distinct entry.2) : Distinct (obj (Dict.ofEntries entries)) := by
  have hempty : (Dict.keys ([] : Dict Json)).Nodup := List.nodup_nil
  refine .obj (Dict.nodup_keys_extend hempty entries) fun field hfield => ?_
  rcases Dict.mem_extend hfield with hnil | hentry
  · cases hnil
  · exact h field hentry

section

variable {value : Text → Option (Json × Text)}
  (hvalue : ∀ {s j rest}, value s = some (j, rest) → Distinct j)
include hvalue

theorem distinct_readItems {fuel : Nat} {s rest : Text} {items : List Json}
    (h : readItems value fuel s = some (items, rest)) : ∀ item ∈ items, Distinct item := by
  induction fuel generalizing s items with
  | zero => cases h
  | succ fuel ih =>
    rw [readItems] at h
    obtain ⟨⟨first, after⟩, hfirst, h⟩ := Option.bind_eq_some_iff.1 h
    have hdistinct : Distinct first := hvalue hfirst
    simp only at h
    split at h
    · cases h
      exact List.forall_mem_singleton.2 hdistinct
    · obtain ⟨⟨others, end'⟩, hothers, h⟩ := Option.map_eq_some_iff.1 h
      cases h
      exact List.forall_mem_cons.2 ⟨hdistinct, ih hothers⟩
    · cases h

theorem distinct_readFields {fuel : Nat} {s rest : Text} {fields : List (Text × Json)}
    (h : readFields value fuel s = some (fields, rest)) :
    ∀ field ∈ fields, Distinct field.2 := by
  induction fuel generalizing s fields with
  | zero => cases h
  | succ fuel ih =>
    rw [readFields] at h
    split at h
    · obtain ⟨⟨name, after⟩, -, h⟩ := Option.bind_eq_some_iff.1 h
      simp only at h
      split at h
      · obtain ⟨⟨item, after'⟩, hitem, h⟩ := Option.bind_eq_some_iff.1 h
        have hdistinct : Distinct item := hvalue hitem
        simp only at h
        split at h
        · cases h
          exact List.forall_mem_singleton.2 hdistinct
        · obtain ⟨⟨others, end'⟩, hothers, h⟩ := Option.map_eq_some_iff.1 h
          cases h
          exact List.forall_mem_cons.2 ⟨hdistinct, ih hothers⟩
        · cases h
      · cases h
    · cases h

end

theorem distinct_readValue (depth : Nat) {s rest : Text} {j : Json}
    (h : readValue depth s = some (j, rest)) : Distinct j := by
  unfold readValue at h
  split at h
  · cases h
  · split at h
    · obtain ⟨⟨text, after⟩, -, h⟩ := Option.map_eq_some_iff.1 h
      cases h
      exact .str text
    · split at h
      · -- An array, whose items are one level further down.
        cases depth with
        | zero => cases h
        | succ depth =>
          simp only at h
          split at h
          · cases h
            exact .arr (List.forall_mem_nil _)
          · obtain ⟨⟨items, after⟩, hitems, h⟩ := Option.map_eq_some_iff.1 h
            cases h
            exact .arr (distinct_readItems (distinct_readValue depth) hitems)
      · split at h
        · cases depth with
          | zero => cases h
          | succ depth =>
            simp only at h
            split at h
            · cases h
              exact distinct_ofEntries (List.forall_mem_nil _)
            · obtain ⟨⟨fields, after⟩, hfields, h⟩ := Option.map_eq_some_iff.1 h
              cases h
              exact distinct_ofEntries (distinct_readFields (distinct_readValue depth) hfields)
        · split at h
          · obtain ⟨⟨n, after⟩, -, h⟩ := Option.map_eq_some_iff.1 h
            cases h
            exact .num n
          · split at h
            · cases h
              exact .null
            · cases h
              exact .bool true
            · cases h
              exact .bool false
            · cases h

theorem distinct_ofText? {s : Text} {j : Json} (h : ofText? s = some j) : Distinct j := by
  obtain ⟨⟨value, rest⟩, hread, h⟩ := Option.bind_eq_some_iff.1 h
  simp only [Option.ite_none_right_eq_some, Option.some.injEq] at h
  exact h.2 ▸ distinct_readValue maxNesting hread

/-- A value that bytes denote names each field of each object once. -/
theorem distinct_ofBytes? {bytes : List UInt8} {j : Json} (h : ofBytes? bytes = some j) :
    Distinct j := by
  unfold ofBytes? at h
  split at h
  · obtain ⟨s, -, h⟩ := Option.bind_eq_some_iff.1 h
    exact distinct_ofText? h
  · obtain ⟨s, -, h⟩ := Option.bind_eq_some_iff.1 h
    exact distinct_ofText? h

end Json

end Shorthand
