import BlogSnapshot.Proofs.Resolution.Declarations
import BlogSnapshot.Proofs.Resolution.Ranks

/-! The entities that a fold numbers: one for each declared key, with the rank of the key as its
id and the earliest value of the key. Resolving a corpus checks authors, categories and tags in
this order.
-/

namespace BlogSnapshot

namespace Declaration

variable {ν ε : Type}

-----------------------------------------------------------------------------------------
-- Ranks in a table
-----------------------------------------------------------------------------------------

/-- The position of a key in the ranked table is its rank. Witness: the table has each declared
key once, in ascending order.
-/
theorem rank_of_getElem?_ranked {ds : List (Declaration ν)} {i : Nat} {entry : String × ν}
    (at_i : (ranked ds)[i]? = some entry)
    : rank (ds.map (·.key)) entry.1 = i + 1 := by
  have sameKeys : (ds.map (·.key)).dedup.Perm ((ranked ds).map Prod.fst) := by
    apply (List.perm_ext_iff_of_nodup (List.nodup_dedup _) (ranked_ascending ds).nodup).mpr
    intro key
    rw [List.mem_dedup, mem_keys_ranked]
  have ascending : Sorting.Ascending id ((ranked ds).map Prod.fst) :=
    List.pairwise_map.mpr (ranked_ascending ds)
  exact rank_of_getElem? ascending sameKeys (by simp [at_i])

/-- A key with its value and number stands in the numbered table exactly when it is declared,
with its earliest value and its rank.
-/
theorem mem_zipIdx_ranked (ds : List (Declaration ν)) (key : String) (v : ν) (id : Nat)
    : ((key, v), id) ∈ (ranked ds).zipIdx 1
      ↔ earliest? ds key = some v ∧ id = rank (ds.map (·.key)) key := by
  rw [List.mk_mem_zipIdx_iff_le_and_getElem?_sub, ← mem_ranked]
  constructor
  · rintro ⟨positive, found⟩
    have ranks : rank (ds.map (·.key)) key = id - 1 + 1 := rank_of_getElem?_ranked found
    exact ⟨List.mem_of_getElem? found, by omega⟩
  · rintro ⟨member, rfl⟩
    obtain ⟨i, found⟩ := List.mem_iff_getElem?.mp member
    rw [rank_of_getElem?_ranked found]
    exact ⟨by omega, by simpa using found⟩

-----------------------------------------------------------------------------------------
-- The resolution of declarations
-----------------------------------------------------------------------------------------

variable [DecidableEq ν]

section

variable (conflict : Declaration ν → ν → Cause) (entity : Nat → String → ν → ε)
variable (ds : List (Declaration ν))

/-- The entities are those of the ranked table, numbered from 1. -/
theorem resolve_entities
    : (resolve conflict entity ds).entities
      = ((ranked ds).zipIdx 1).map fun e => entity e.2 e.1.1 e.1.2 := by
  simp [resolve, fold_eq, numbered, ranked, List.map_map, Function.comp_def]

/-- The conflicts are those of the declarations. -/
theorem resolve_conflicts
    : (resolve conflict entity ds).conflicts = conflictsOf conflict ds := by
  simp [resolve, fold_eq]

/-- There is an entity for each declared key, with its rank and its earliest value, and no other.
-/
theorem mem_resolve_entities (e : ε)
    : e ∈ (resolve conflict entity ds).entities
      ↔ ∃ key v, earliest? ds key = some v
          ∧ e = entity (rank (ds.map (·.key)) key) key v := by
  rw [resolve_entities, List.mem_map]
  constructor
  · rintro ⟨⟨⟨key, v⟩, id⟩, member, rfl⟩
    obtain ⟨found, rfl⟩ := (mem_zipIdx_ranked ds key v id).mp member
    exact ⟨key, v, found, rfl⟩
  · rintro ⟨key, v, found, rfl⟩
    exact ⟨((key, v), _), (mem_zipIdx_ranked ds key v _).mpr ⟨found, rfl⟩, rfl⟩

/-- The keys of the entities are the ranked keys. -/
theorem map_key_resolve_entities {keyOf : ε → String}
    (keyed : ∀ id key v, keyOf (entity id key v) = key)
    : (resolve conflict entity ds).entities.map keyOf = (ranked ds).map Prod.fst := by
  calc (resolve conflict entity ds).entities.map keyOf
      = ((ranked ds).zipIdx 1).map (Prod.fst ∘ Prod.fst) := by
        rw [resolve_entities, List.map_map]
        simp only [Function.comp_def, keyed]
    _ = (ranked ds).map Prod.fst := by
        rw [← List.map_map, List.zipIdx_map_fst]

/-- There is an entity for exactly the declared keys. -/
theorem mem_map_key_resolve_entities {keyOf : ε → String}
    (keyed : ∀ id key v, keyOf (entity id key v) = key) (key : String)
    : key ∈ (resolve conflict entity ds).entities.map keyOf ↔ key ∈ ds.map (·.key) := by
  rw [map_key_resolve_entities conflict entity ds keyed, mem_keys_ranked]

/-- The ids of the entities are the numbers from 1 on. -/
theorem map_id_resolve_entities {idOf : ε → Int}
    (numbered : ∀ id key v, idOf (entity id key v) = id)
    : (resolve conflict entity ds).entities.map idOf
      = (List.range' 1 (resolve conflict entity ds).entities.length).map Int.ofNat := by
  calc (resolve conflict entity ds).entities.map idOf
      = ((ranked ds).zipIdx 1).map (Int.ofNat ∘ Prod.snd) := by
        rw [resolve_entities, List.map_map]
        simp only [Function.comp_def, numbered, Int.ofNat_eq_natCast]
    _ = (List.range' 1 (resolve conflict entity ds).entities.length).map Int.ofNat := by
        rw [← List.map_map, List.zipIdx_map_snd, resolve_entities, List.length_map,
          List.length_zipIdx]

/-- The keys of the entities ascend strictly. -/
theorem resolve_entities_ascending {keyOf : ε → String}
    (keyed : ∀ id key v, keyOf (entity id key v) = key)
    : Sorting.Ascending keyOf (resolve conflict entity ds).entities := by
  have keys := List.pairwise_map.mpr (ranked_ascending ds)
  rw [← map_key_resolve_entities conflict entity ds keyed] at keys
  exact List.pairwise_map.mp keys

end

/-- Declarations that agree are resolved. -/
theorem Agree.unwrap_resolve {ds : List (Declaration ν)} (agree : Agree ds)
    (conflict : Declaration ν → ν → Cause) (entity : Nat → String → ν → ε)
    : (resolve conflict entity ds).unwrap = .ok (resolve conflict entity ds).entities := by
  have none : (resolve conflict entity ds).conflicts = [] := by
    rw [resolve_conflicts, agree.conflictsOf_eq_nil]
  rw [Resolution.unwrap, none]

/-- Declarations with a clash fail for the first one. -/
theorem FirstClash.unwrap_resolve {ds : List (Declaration ν)} {d : Declaration ν} {first : ν}
    (clash : FirstClash ds d first) (conflict : Declaration ν → ν → Cause)
    (entity : Nat → String → ν → ε)
    : (resolve conflict entity ds).unwrap = .error ⟨conflict d first, some d.path⟩ := by
  have head : (resolve conflict entity ds).conflicts.head?
      = some ⟨conflict d first, some d.path⟩ := by
    rw [resolve_conflicts, clash.head?_conflictsOf]
  obtain ⟨rest, conflicts⟩ := List.head?_eq_some_iff.mp head
  rw [Resolution.unwrap, conflicts]

end Declaration

end BlogSnapshot
