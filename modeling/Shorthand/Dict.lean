import Shorthand.Text.Basic

/-!
# `Shorthand.Dict`: small tables keyed by text

A table is a list of entries. `insert` replaces the entry of a key where it stands
and puts a new key at the end, so a table built with it has each key once.

- `get?_insert`: after an insertion the key has the new value and every other key
  keeps its own;
- `get?_erase`: an erased key has no value and every other key keeps its own;
- `mem_keys_iff`: the keys are those that have a value.
-/

set_option autoImplicit false

namespace Shorthand

/-- Entries by key, oldest first. -/
abbrev Dict (α : Type) := List (Text × α)

namespace Dict

variable {α : Type}

/-- The value of a key. -/
def get? (d : Dict α) (key : Text) : Option α :=
  match d with
  | [] => none
  | (k, v) :: rest => if k = key then some v else get? rest key

/-- Sets the value of a key. -/
def insert (d : Dict α) (key : Text) (value : α) : Dict α :=
  match d with
  | [] => [(key, value)]
  | (k, v) :: rest => if k = key then (k, value) :: rest else (k, v) :: insert rest key value

/-- Removes a key. -/
def erase (d : Dict α) (key : Text) : Dict α :=
  match d with
  | [] => []
  | (k, v) :: rest => if k = key then erase rest key else (k, v) :: erase rest key

/-- Whether the key has a value. -/
def contains (d : Dict α) (key : Text) : Bool :=
  (d.get? key).isSome

/-- Inserts every entry of the second table into the first. -/
def extend (d e : Dict α) : Dict α :=
  e.foldl (fun d (k, v) => d.insert k v) d

/-- A table from entries, of which the last one of a key counts. -/
def ofEntries (entries : List (Text × α)) : Dict α :=
  extend [] entries

/-- The keys, oldest first. -/
def keys (d : Dict α) : List Text :=
  d.map Prod.fst

theorem get?_insert (d : Dict α) (key other : Text) (value : α) :
    (d.insert key value).get? other = if key = other then some value else d.get? other := by
  induction d with
  | nil => simp [insert, get?]
  | cons entry rest ih => grind [insert, get?]

theorem get?_erase (d : Dict α) (key other : Text) :
    (d.erase key).get? other = if key = other then none else d.get? other := by
  induction d with
  | nil => simp [erase, get?]
  | cons entry rest ih => grind [erase, get?]

theorem mem_keys_iff (d : Dict α) (key : Text) : key ∈ d.keys ↔ (d.get? key).isSome := by
  induction d with
  | nil => simp [keys, get?]
  | cons entry rest ih =>
    obtain ⟨k, v⟩ := entry
    have hkeys : keys ((k, v) :: rest) = k :: keys rest := rfl
    rw [hkeys, List.mem_cons, ih, get?]
    by_cases h : k = key
    · simp [h]
    · simp [h, Ne.symm h]

end Dict

end Shorthand
