/-! Indexes: values by key. Each key is there once, in the order in which the keys came up.
-/

namespace BlogSnapshot.Index

variable {α β κ ν : Type} [BEq κ]

/-- The index with another value for a key, made from the value that is there if there is one. A
new key comes last.
-/
def alter (key : κ) (f : Option ν → ν) : List (κ × ν) → List (κ × ν)
  | [] => [(key, f none)]
  | (k, v) :: rest =>
      if k == key then (k, f (some v)) :: rest
      else (k, v) :: alter key f rest

/-- The items by key; an item takes the place of an earlier one with its key. -/
def byKey (keyOf : α → κ) (items : List α) : List (κ × α) :=
  items.foldl (fun index a => alter (keyOf a) (fun _ => a) index) []

/-- The bucket of a key, which is empty if the index does not have the key. -/
def bucket (key : κ) (index : List (κ × List α)) : List α :=
  (index.lookup key).getD []

/-- Puts an item at the end of the bucket of a key. -/
def put (a : α) (index : List (κ × List α)) (key : κ) : List (κ × List α) :=
  alter key (fun items => items.getD [] ++ [a]) index

/-- The index with every bucket arranged anew. -/
def arrange (f : List α → List β) (index : List (κ × List α)) : List (κ × List β) :=
  index.map fun (key, items) => (key, f items)

/-- The items in buckets, each item in that of each of its keys. -/
def buckets (keysOf : α → List κ) (items : List α) : List (κ × List α) :=
  items.foldl (fun index a => (keysOf a).foldl (put a) index) []

end BlogSnapshot.Index
