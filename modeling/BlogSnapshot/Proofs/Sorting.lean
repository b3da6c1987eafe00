import Mathlib.Data.List.Sort
import Mathlib.Data.String.Basic
import Mathlib.Order.Basic

/-! Lists sorted by a key. A sort keeps the order of items with equal keys, and a list whose keys
ascend strictly is the only one of its items, so sorting forgets where its input came from.
-/

namespace BlogSnapshot.Sorting

variable {α κ : Type} [LinearOrder κ] {key : α → κ} {le : α → α → Bool}

/-- The comparison `le` compares items by their keys. -/
def Compares (le : α → α → Bool) (key : α → κ) : Prop :=
  ∀ a b, le a b = true ↔ key a ≤ key b

/-- The keys of a list never descend. -/
def Sorted (key : α → κ) (items : List α) : Prop :=
  items.Pairwise fun a b => key a ≤ key b

/-- The keys of a list ascend strictly. -/
def Ascending (key : α → κ) (items : List α) : Prop :=
  items.Pairwise fun a b => key a < key b

-----------------------------------------------------------------------------------------
-- What a sort does
-----------------------------------------------------------------------------------------

/-- Comparing by keys is transitive, as the order of the keys is. -/
theorem Compares.trans (h : Compares le key) (a b c : α)
    (ab : le a b = true) (bc : le b c = true)
    : le a c = true :=
  (h a c).mpr (le_trans ((h a b).mp ab) ((h b c).mp bc))

/-- Comparing by keys is total, as the order of the keys is. -/
theorem Compares.total (h : Compares le key) (a b : α)
    : (le a b || le b a) = true := by
  rcases le_total (key a) (key b) with ab | ba
  · simp [(h a b).mpr ab]
  · simp [(h b a).mpr ba]

/-- The keys of a sorted list never descend. -/
theorem Compares.pairwise_le (h : Compares le key) (items : List α)
    : (items.mergeSort le).Pairwise fun a b => key a ≤ key b :=
  (List.pairwise_mergeSort h.trans h.total items).imp fun {a b} ab => (h a b).mp ab

/-- Distinct keys ascend strictly once they are sorted. -/
theorem Compares.ascending (h : Compares le key) {items : List α}
    (distinct : (items.map key).Nodup)
    : Ascending key (items.mergeSort le) := by
  have sortedDistinct : ((items.mergeSort le).map key).Nodup :=
    ((List.mergeSort_perm items le).map key).nodup_iff.mpr distinct
  have apart : (items.mergeSort le).Pairwise fun a b => key a ≠ key b :=
    List.pairwise_map.mp sortedDistinct
  exact ((h.pairwise_le items).and apart).imp fun both => lt_of_le_of_ne both.1 both.2

/-- A sort is stable: the items of one key stay in their order. Witness: they are a sorted
sublist of the input, hence one of the output, where no other item has the key.
-/
theorem Compares.filter_mergeSort (h : Compares le key) (items : List α) (k : κ)
    : (items.mergeSort le).filter (key · = k) = items.filter (key · = k) := by
  have equals : (items.filter (key · = k)).Pairwise fun a b => le a b = true := by
    apply List.pairwise_of_forall_mem_list
    intro a inA b inB
    have keyA : key a = k := by simpa using (List.mem_filter.mp inA).2
    have keyB : key b = k := by simpa using (List.mem_filter.mp inB).2
    exact (h a b).mpr (keyA.trans keyB.symm).le
  have kept : (items.filter (key · = k)).Sublist (items.mergeSort le) :=
    List.sublist_mergeSort h.trans h.total equals List.filter_sublist
  have inside : (items.filter (key · = k)).Sublist
      ((items.mergeSort le).filter (key · = k)) := by
    simpa only [List.filter_filter, Bool.and_self] using kept.filter (key · = k)
  have sameLength := ((List.mergeSort_perm items le).filter (key · = k)).length_eq
  exact (inside.eq_of_length sameLength.symm).symm

/-- What holds between items in their order still holds among those of one key. Witness: two such
items stand in the output as they stand in the input.
-/
theorem Compares.pairwise_stable (h : Compares le key) {R : α → α → Prop} {items : List α}
    (related : items.Pairwise R)
    : (items.mergeSort le).Pairwise fun a b => key a < key b ∨ (key a = key b ∧ R a b) := by
  have kept : (items.mergeSort le).Pairwise fun a b => key a = key b → R a b := by
    apply List.pairwise_iff_forall_sublist.mpr
    intro a b inOutput sameKey
    have alike : [a, b].filter (key · = key b) = [a, b] := by simp [sameKey]
    have inClass : [a, b].Sublist ((items.mergeSort le).filter (key · = key b)) := by
      rw [← alike]
      exact inOutput.filter _
    rw [h.filter_mergeSort] at inClass
    exact List.pairwise_iff_forall_sublist.mp related (inClass.trans List.filter_sublist)
  refine ((h.pairwise_le items).and kept).imp fun {a b} both => ?_
  rcases lt_or_eq_of_le both.1 with smaller | same
  · exact .inl smaller
  · exact .inr ⟨same, both.2 same⟩

-----------------------------------------------------------------------------------------
-- Sorted lists
-----------------------------------------------------------------------------------------

/-- An item of a list is in every list with the same items of its key. -/
theorem mem_of_same_class {left right : List α} {a : α} (member : a ∈ left)
    (sameClass : left.filter (key · = key a) = right.filter (key · = key a))
    : a ∈ right := by
  have inClass : a ∈ left.filter (key · = key a) := by simpa using member
  rw [sameClass] at inClass
  exact List.mem_of_mem_filter inClass

/-- A sorted list is made up of its items of each key in their order, by induction on the list. The
heads of two such lists both have the least key, so they are the first item of one class.
-/
theorem Sorted.eq_of_classes {left right : List α} (hl : Sorted key left)
    (hr : Sorted key right)
    (classes : ∀ k, left.filter (key · = k) = right.filter (key · = k))
    : left = right := by
  induction left generalizing right with
  | nil =>
      cases right with
      | nil => rfl
      | cons b others => simpa using classes (key b)
  | cons a rest ih =>
      cases right with
      | nil => simpa using classes (key a)
      | cons b others =>
          obtain ⟨belowA, sortedRest⟩ := List.pairwise_cons.mp hl
          obtain ⟨belowB, sortedOthers⟩ := List.pairwise_cons.mp hr
          have inRight : a ∈ b :: others := mem_of_same_class (by simp) (classes (key a))
          have inLeft : b ∈ a :: rest := mem_of_same_class (by simp) (classes (key b)).symm
          have sameKey : key b = key a := by
            apply le_antisymm
            · rcases List.mem_cons.mp inRight with rfl | later
              · exact le_refl _
              · exact belowB a later
            · rcases List.mem_cons.mp inLeft with rfl | later
              · exact le_refl _
              · exact belowA b later
          have first := classes (key a)
          simp only [List.filter_cons, sameKey, decide_true, if_true] at first
          obtain rfl : a = b := (List.cons.inj first).1
          have later (k : κ) : rest.filter (key · = k) = others.filter (key · = k) := by
            have both := classes k
            simp only [List.filter_cons] at both
            split at both
            · exact (List.cons.inj both).2
            · exact both
          rw [ih sortedRest sortedOthers later]

-----------------------------------------------------------------------------------------
-- Strictly ascending keys
-----------------------------------------------------------------------------------------

/-- Strictly ascending keys are distinct. -/
theorem Ascending.nodup {items : List α} (h : Ascending key items)
    : (items.map key).Nodup :=
  List.pairwise_map.mpr (h.imp fun ab => ab.ne)

/-- Two strictly ascending arrangements of the same items are one list. -/
theorem Ascending.eq_of_perm {left right : List α} (hl : Ascending key left)
    (hr : Ascending key right) (perm : left.Perm right)
    : left = right :=
  List.Perm.eq_of_pairwise (fun _ _ _ _ ab ba => absurd (ab.trans ba) (lt_irrefl _)) hl hr perm

/-- Two strictly ascending lists of the same items are one list. -/
theorem Ascending.eq_of_mem_iff {left right : List α} (hl : Ascending key left)
    (hr : Ascending key right) (same : ∀ a, a ∈ left ↔ a ∈ right)
    : left = right := by
  have distinctLeft : left.Nodup := hl.nodup.of_map
  have distinctRight : right.Nodup := hr.nodup.of_map
  exact hl.eq_of_perm hr ((List.perm_ext_iff_of_nodup distinctLeft distinctRight).mpr same)

/-- Sorting by distinct keys gives their only strictly ascending arrangement. -/
theorem Ascending.mergeSort_eq {items arranged : List α} (h : Ascending key arranged)
    (compares : Compares le key) (perm : items.Perm arranged)
    : items.mergeSort le = arranged := by
  have distinct : (items.map key).Nodup := (perm.map key).nodup_iff.mpr h.nodup
  exact (compares.ascending distinct).eq_of_perm h ((List.mergeSort_perm items le).trans perm)

/-- In a strictly ascending list the items of smaller keys stand before an item. -/
theorem Ascending.mem_before_iff {before after : List α} {x y : α}
    (h : Ascending key (before ++ x :: after)) (member : y ∈ before ++ x :: after)
    : y ∈ before ↔ key y < key x := by
  obtain ⟨_, behind, across⟩ := List.pairwise_append.mp h
  constructor
  · intro early
    exact across y early x (by simp)
  · intro smaller
    rcases List.mem_append.mp member with early | late
    · exact early
    rcases List.mem_cons.mp late with rfl | later
    · exact absurd smaller (lt_irrefl _)
    · have larger : key x < key y := (List.pairwise_cons.mp behind).1 y later
      exact absurd (larger.trans smaller) (lt_irrefl _)

/-- The number of smaller keys is the position of an item in a strictly ascending list, by induction
on the list.
-/
theorem Ascending.countP_lt {items : List α} (h : Ascending key items) {i : Nat} {x : α}
    (at_i : items[i]? = some x)
    : items.countP (key · < key x) = i := by
  induction items generalizing i with
  | nil => simp at at_i
  | cons head rest ih =>
      obtain ⟨below, ascending⟩ := List.pairwise_cons.mp h
      cases i with
      | zero =>
          have same : head = x := by simpa using at_i
          subst same
          have none : rest.countP (key · < key head) = 0 := by
            apply List.countP_eq_zero.mpr
            intro y inRest
            simpa using (below y inRest).le
          simp [none]
      | succ j =>
          have inRest : rest[j]? = some x := by simpa using at_i
          have smaller : key head < key x := below x (List.mem_of_getElem? inRest)
          simp [smaller, ih ascending inRest]

end BlogSnapshot.Sorting
