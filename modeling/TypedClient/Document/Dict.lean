/-!
# Dictionaries

A dictionary is a list of entries in strictly ascending order of their keys. Look-up finds the
entry of a key, and `insert`, `erase` and `ofEntries` keep the order, so two dictionaries with the
same entries are equal lists.
-/

namespace TypedClient

/-- Entries keyed by text, in strictly ascending key order. -/
abbrev Dict (α : Type) := List (String × α)

namespace Dict

variable {α β : Type}

/-- Whether the keys of the entries strictly ascend. -/
def Sorted (d : Dict α) : Prop :=
  d.Pairwise (fun a b => a.1 < b.1)

/-- The value stored under `key`. -/
def get? (d : Dict α) (key : String) : Option α :=
  List.lookup key d

/-- Whether `key` has an entry. -/
def contains (d : Dict α) (key : String) : Bool :=
  (get? d key).isSome

/-- The keys in order. -/
def keys (d : Dict α) : List String :=
  d.map Prod.fst

/-- The dictionary with `value` under `key`, in place of what was there. -/
def insert (key : String) (value : α) : Dict α → Dict α
  | [] => [(key, value)]
  | (k, v) :: rest =>
      if key < k then (key, value) :: (k, v) :: rest
      else if key = k then (key, value) :: rest
      else (k, v) :: insert key value rest

/-- The dictionary without an entry for `key`. -/
def erase (key : String) (d : Dict α) : Dict α :=
  d.filter (fun e => e.1 != key)

/-- The dictionary of a list of entries; of two entries with one key the later stays. -/
def ofEntries (entries : List (String × α)) : Dict α :=
  entries.foldl (fun d e => insert e.1 e.2 d) []

/-- The dictionary with every value changed by `f`. -/
def mapValues (f : α → β) (d : Dict α) : Dict β :=
  d.map (fun e => (e.1, f e.2))

@[simp] theorem get?_nil (key : String) : get? ([] : Dict α) key = none := rfl

@[simp] theorem get?_insert_self (key : String) (value : α) (d : Dict α) :
    get? (insert key value d) key = some value := by
  induction d with
  | nil => simp [insert, get?]
  | cons e rest ih =>
      obtain ⟨k, v⟩ := e
      unfold insert
      split
      · simp [get?]
      · split
        · simp [get?]
        · rename_i h
          have hne : (key == k) = false := by simpa using h
          simpa [get?, List.lookup_cons, hne] using ih

end Dict

end TypedClient
