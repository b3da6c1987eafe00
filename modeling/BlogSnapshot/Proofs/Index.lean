import BlogSnapshot.Index
import Mathlib.Data.List.Induction

/-! What is found in an index: under a key the last of the items with the key, and in a bucket all
items with its key in their order.
-/

namespace BlogSnapshot.Index

variable {α β κ ν : Type} [BEq κ]

/-- Each bucket is arranged for itself, by induction on the index. -/
theorem bucket_arrange {f : List α → List β} (empty : f [] = []) (index : List (κ × List α))
    (k : κ)
    : bucket k (arrange f index) = f (bucket k index) := by
  induction index with
  | nil => exact empty.symm
  | cons entry rest ih =>
      obtain ⟨key, items⟩ := entry
      simp only [bucket, arrange, List.map_cons, List.lookup_cons] at ih ⊢
      cases k == key
      · exact ih
      · rfl

variable [LawfulBEq κ]

/-- A pair of an index with distinct keys is what its key leads to, by induction on the index. -/
theorem lookup_eq_some_iff_mem {index : List (κ × ν)} (distinct : (index.map Prod.fst).Nodup)
    (key : κ) (v : ν)
    : index.lookup key = some v ↔ (key, v) ∈ index := by
  induction index with
  | nil => simp
  | cons entry rest ih =>
      obtain ⟨k, w⟩ := entry
      obtain ⟨fresh, restDistinct⟩ := List.nodup_cons.mp distinct
      by_cases same : key = k
      · subst same
        have absent : (key, v) ∉ rest := fun member =>
          fresh (List.mem_map.mpr ⟨(key, v), member, rfl⟩)
        simp [absent, eq_comm]
      · have unequal : (key == k) = false := by simpa using same
        simp [List.lookup_cons, unequal, same, ih restDistinct]

/-- Another value for a key changes nothing that is found under other keys, by induction on the
index.
-/
theorem lookup_alter (key k : κ) (f : Option ν → ν) (index : List (κ × ν))
    : (alter key f index).lookup k
      = if key == k then some (f (index.lookup key)) else index.lookup k := by
  induction index with
  | nil => cases found : key == k <;> simp [alter, List.lookup_cons, BEq.comm (a := k), found]
  | cons entry rest ih =>
      obtain ⟨own, v⟩ := entry
      rw [alter]
      cases same : own == key with
      | true =>
          obtain rfl := eq_of_beq same
          cases found : own == k <;> simp [List.lookup_cons, BEq.comm (a := k), found]
      | false =>
          cases found : own == k with
          | true =>
              obtain rfl := eq_of_beq found
              simp [BEq.comm (a := key), same]
          | false => simp [List.lookup_cons, BEq.comm (b := own), same, found, ih]

/-- Under a key stands the last of the items with the key, by induction on the items from their
end.
-/
theorem lookup_byKey (keyOf : α → κ) (items : List α) (key : κ)
    : (byKey keyOf items).lookup key = items.reverse.find? (keyOf · == key) := by
  induction items using List.reverseRecOn with
  | nil => rfl
  | append_singleton before a ih =>
      rw [byKey, List.foldl_append, List.foldl_cons, List.foldl_nil, lookup_alter, ← byKey, ih,
        List.reverse_append, List.reverse_singleton, List.singleton_append, List.find?_cons]
      cases keyOf a == key <;> rfl

-----------------------------------------------------------------------------------------
-- Buckets
-----------------------------------------------------------------------------------------

theorem bucket_put (a : α) (index : List (κ × List α)) (key k : κ)
    : bucket k (put a index key) = bucket k index ++ if key == k then [a] else [] := by
  rw [bucket, put, lookup_alter, bucket]
  cases same : key == k with
  | true =>
      obtain rfl := eq_of_beq same
      rfl
  | false => simp

/-- An item is put into a bucket as often as it has the key, by induction on its keys. -/
theorem bucket_foldl_put (a : α) (keys : List κ) (index : List (κ × List α)) (k : κ)
    : bucket k (keys.foldl (put a) index) = bucket k index ++ List.replicate (keys.count k) a := by
  induction keys generalizing index with
  | nil => simp
  | cons key rest ih =>
      rw [List.foldl_cons, ih, bucket_put, List.append_assoc, List.count_cons]
      cases key == k
      · simp
      · simp [List.replicate_succ]

/-- A bucket has the items of its key in their order, each as often as it has the key: by induction
on the items, with what is in the buckets before them.
-/
theorem bucket_buckets (keysOf : α → List κ) (items : List α) (k : κ)
    : bucket k (buckets keysOf items)
      = items.flatMap fun a => List.replicate ((keysOf a).count k) a := by
  have onTop (index : List (κ × List α))
      : bucket k (items.foldl (fun index a => (keysOf a).foldl (put a) index) index)
        = bucket k index ++ items.flatMap fun a => List.replicate ((keysOf a).count k) a := by
    induction items generalizing index with
    | nil => simp
    | cons a rest ih =>
        rw [List.foldl_cons, ih, bucket_foldl_put, List.append_assoc, List.flatMap_cons]
  exact onTop []

end BlogSnapshot.Index
