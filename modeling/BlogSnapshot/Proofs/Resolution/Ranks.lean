import BlogSnapshot.Proofs.Sorting
import Mathlib.Data.List.Dedup
import Mathlib.Data.List.Perm.Basic

/-! Ranks among keys. Keys may be repeated and in any order; their ranks number the distinct ones
from 1 on without a gap, in ascending order of keys.
-/

namespace BlogSnapshot

/-- The rank of a key: one more than the number of distinct keys that are smaller. -/
def rank (keys : List String) (key : String) : Nat :=
  keys.dedup.countP (· < key) + 1

variable {keys : List String}

/-- The order of the keys does not matter. -/
theorem rank_perm {others : List String} (perm : keys.Perm others) (key : String)
    : rank keys key = rank others key := by
  rw [rank, rank, perm.dedup.countP_eq]

/-- The position of a key among the distinct keys in ascending order is its rank. -/
theorem rank_of_getElem? {arranged : List String} (ascending : Sorting.Ascending id arranged)
    (perm : keys.dedup.Perm arranged) {i : Nat} {key : String} (at_i : arranged[i]? = some key)
    : rank keys key = i + 1 := by
  rw [rank, perm.countP_eq]
  exact congrArg (· + 1) (ascending.countP_lt at_i)

/-- The distinct keys have an ascending arrangement. -/
theorem exists_arranged (keys : List String)
    : ∃ arranged, Sorting.Ascending id arranged ∧ keys.dedup.Perm arranged := by
  have compares : Sorting.Compares (fun a b : String => decide (a ≤ b)) id :=
    fun _ _ => decide_eq_true_iff
  refine ⟨keys.dedup.mergeSort fun a b => a ≤ b, ?_, (List.mergeSort_perm _ _).symm⟩
  exact compares.ascending (by simpa using List.nodup_dedup keys)

/-- Ranks tell keys apart. Witness: a rank is a position in the ascending arrangement. -/
theorem rank_inj {a b : String} (inA : a ∈ keys) (inB : b ∈ keys)
    : rank keys a = rank keys b ↔ a = b := by
  obtain ⟨arranged, ascending, perm⟩ := exists_arranged keys
  obtain ⟨i, at_i⟩ := List.mem_iff_getElem?.mp (perm.mem_iff.mp (List.mem_dedup.mpr inA))
  obtain ⟨j, at_j⟩ := List.mem_iff_getElem?.mp (perm.mem_iff.mp (List.mem_dedup.mpr inB))
  constructor
  · intro same
    rw [rank_of_getElem? ascending perm at_i, rank_of_getElem? ascending perm at_j] at same
    have samePosition : i = j := Nat.succ.inj same
    rw [samePosition, at_j] at at_i
    exact (Option.some.inj at_i).symm
  · exact congrArg (rank keys)

/-- The ranks are the numbers from 1 to the number of distinct keys. Witness: each position in the
ascending arrangement has a key.
-/
theorem exists_rank_eq_iff (n : Nat)
    : (∃ key ∈ keys, rank keys key = n) ↔ 1 ≤ n ∧ n ≤ keys.dedup.length := by
  obtain ⟨arranged, ascending, perm⟩ := exists_arranged keys
  rw [perm.length_eq]
  constructor
  · rintro ⟨key, member, rfl⟩
    obtain ⟨i, at_i⟩ := List.mem_iff_getElem?.mp (perm.mem_iff.mp (List.mem_dedup.mpr member))
    have inside : i < arranged.length := (List.getElem?_eq_some_iff.mp at_i).1
    rw [rank_of_getElem? ascending perm at_i]
    omega
  · rintro ⟨positive, inside⟩
    have at_n : arranged[n - 1]? = some arranged[n - 1] := List.getElem?_eq_getElem (by omega)
    refine ⟨arranged[n - 1], ?_, ?_⟩
    · exact List.mem_dedup.mp (perm.mem_iff.mpr (List.mem_of_getElem? at_n))
    · rw [rank_of_getElem? ascending perm at_n]
      omega

/-- Ranks are in the order of the keys. Witness: so are the positions in the ascending arrangement.
-/
theorem rank_lt_iff {a b : String} (inA : a ∈ keys) (inB : b ∈ keys)
    : rank keys a < rank keys b ↔ a < b := by
  obtain ⟨arranged, ascending, perm⟩ := exists_arranged keys
  have before {c d : String} (inC : c ∈ keys) (inD : d ∈ keys)
      (earlier : rank keys c < rank keys d) : c < d := by
    obtain ⟨i, at_i⟩ := List.mem_iff_getElem?.mp (perm.mem_iff.mp (List.mem_dedup.mpr inC))
    obtain ⟨j, at_j⟩ := List.mem_iff_getElem?.mp (perm.mem_iff.mp (List.mem_dedup.mpr inD))
    rw [rank_of_getElem? ascending perm at_i, rank_of_getElem? ascending perm at_j] at earlier
    obtain ⟨insideI, rfl⟩ := List.getElem?_eq_some_iff.mp at_i
    obtain ⟨insideJ, rfl⟩ := List.getElem?_eq_some_iff.mp at_j
    have ordered : i < j := Nat.lt_of_succ_lt_succ earlier
    exact List.pairwise_iff_getElem.mp ascending i j insideI insideJ ordered
  constructor
  · exact before inA inB
  · intro smaller
    rcases Nat.lt_trichotomy (rank keys a) (rank keys b) with earlier | same | later
    · exact earlier
    · exact absurd smaller ((rank_inj inA inB).mp same ▸ lt_irrefl a)
    · exact absurd (before inB inA later) smaller.asymm

/-- Where fewer keys are given, ranks are smaller at most. Witness: fewer distinct keys are below a
key.
-/
theorem rank_le_of_subset {fewer : List String} (subset : fewer ⊆ keys) (key : String)
    : rank fewer key ≤ rank keys key := by
  have subperm : fewer.dedup.Subperm keys.dedup := by
    apply List.subperm_of_subset (List.nodup_dedup fewer)
    intro k member
    exact List.mem_dedup.mpr (subset (List.mem_dedup.mp member))
  exact Nat.succ_le_succ (subperm.countP_le _)

end BlogSnapshot
