/-!
# Entries by key

An object, a header set or a configuration section is a list of entries in
ascending order of their keys, each key once.  This module holds the operations
that keep such a list in order.
-/

namespace ApiContract

/-- A list of keyed entries. Those built by `Entries.insert` ascend by key. -/
abbrev Entries (α : Type) := List (String × α)

namespace Entries

variable {α β : Type}

/-- The value under a key. -/
def get? (entries : Entries α) (key : String) : Option α :=
  entries.lookup key

/-- A key has an entry. -/
def contains (entries : Entries α) (key : String) : Bool :=
  (get? entries key).isSome

/-- The keys in order. -/
def keys (entries : Entries α) : List String :=
  entries.map Prod.fst

/-- The entries with one more, in the place of its key. An entry that already has
the key is replaced. -/
def insert (key : String) (value : α) : Entries α → Entries α
  | [] => [(key, value)]
  | (other, existing) :: rest =>
      if key < other then (key, value) :: (other, existing) :: rest
      else if key = other then (key, value) :: rest
      else (other, existing) :: insert key value rest

/-- The entries in order of their keys. Of entries with one key the last stays. -/
def ofList (entries : List (String × α)) : Entries α :=
  entries.foldl (fun sorted entry => insert entry.1 entry.2 sorted) []

/-- The entries with every value changed. -/
def mapValues (change : α → β) (entries : Entries α) : Entries β :=
  entries.map fun entry => (entry.1, change entry.2)

/-- Keys strictly ascend. -/
def Ascending (entries : Entries α) : Prop :=
  entries.Pairwise fun left right => left.1 < right.1

@[simp] theorem get?_nil (key : String) : get? ([] : Entries α) key = none := rfl

@[simp] theorem keys_mapValues (change : α → β) (entries : Entries α) :
    keys (mapValues change entries) = keys entries := by
  simp [keys, mapValues]

end Entries

end ApiContract
