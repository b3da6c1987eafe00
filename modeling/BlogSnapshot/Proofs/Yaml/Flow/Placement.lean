import BlogSnapshot.Proofs.Yaml.Flow
import Mathlib.Data.List.Flatten
import Mathlib.Data.List.Nodup
import Mathlib.Data.List.Perm.Subperm

/-! Where the collections of a line stand: each inside of the one that holds it and after those
before it, so that no two stand at the same position.
-/

namespace BlogSnapshot.Yaml.Flow

-----------------------------------------------------------------------------------------
-- Parts of a collection
-----------------------------------------------------------------------------------------

section

variable {α : Type} {width : α → Nat} {i j : Nat} {as : List α} {a : α}

theorem map_place {β : Type} (width : α → Nat) (i : Nat) (as : List α) (g : α → β)
    : (place width i as).map (fun p => g p.2) = as.map g := by
  induction as generalizing i with
  | nil => rfl
  | cons a as ih => rw [place, List.map_cons, List.map_cons, ih]

theorem le_of_mem_place (member : (j, a) ∈ place width i as) : i ≤ j := by
  induction as generalizing i with
  | nil => cases member
  | cons b as ih =>
      rcases List.mem_cons.mp member with first | later
      · exact Nat.le_of_eq (Prod.mk.inj first).1.symm
      · have := ih later
        omega

/-- Each part stands behind the end of the one before it, by induction on the parts. -/
theorem pairwise_place (width : α → Nat) (i : Nat) (as : List α)
    : (place width i as).Pairwise fun p q => p.1 + width p.2 < q.1 := by
  induction as generalizing i with
  | nil => exact .nil
  | cons a as ih =>
      refine List.pairwise_cons.mpr ⟨fun q member => ?_, ih _⟩
      have := le_of_mem_place (a := q.2) member
      dsimp only
      omega

end

section

variable {α : Type} {pieces : α → List Piece} {i j : Nat} {as : List α} {a : α}

/-- Parts after the first one end where they are written to end, by induction on them. -/
theorem end_le_of_mem_rest
    (member : (j, a) ∈ place (fun a => Piece.lineWidth (pieces a)) (i + 2) as)
    : j + Piece.lineWidth (pieces a)
      ≤ i + Piece.lineWidth ((as.map pieces).flatMap (Piece.comma :: ·)) := by
  have comma : Piece.comma.width = 2 := rfl
  induction as generalizing i with
  | nil => cases member
  | cons b as ih =>
      rw [List.map_cons, List.flatMap_cons, Piece.lineWidth_append, Piece.lineWidth_cons, comma]
      rcases List.mem_cons.mp member with first | later
      · obtain ⟨rfl, rfl⟩ := Prod.mk.inj first
        omega
      · have := ih later
        dsimp only at this
        omega

/-- Parts end where they are written to end. -/
theorem end_le_of_mem_place
    (member : (j, a) ∈ place (fun a => Piece.lineWidth (pieces a)) i as)
    : j + Piece.lineWidth (pieces a) ≤ i + Piece.lineWidth (Piece.commas (as.map pieces)) := by
  cases as with
  | nil => cases member
  | cons b as =>
      rw [List.map_cons, Piece.commas, Piece.lineWidth_append]
      rcases List.mem_cons.mp member with first | later
      · obtain ⟨rfl, rfl⟩ := Prod.mk.inj first
        omega
      · have := end_le_of_mem_rest later
        dsimp only at this
        omega

end

-----------------------------------------------------------------------------------------
-- Trees inside of a tree
-----------------------------------------------------------------------------------------

theorem lineWidth_inBrackets (isMap : Bool) (parts : List (List Piece))
    : Piece.lineWidth (Piece.inBrackets isMap parts)
      = Piece.lineWidth (Piece.commas parts) + 2 := by
  have opening : (Piece.opening isMap).width = 1 := rfl
  have closing : Piece.lineWidth [.closing isMap] = 1 := rfl
  rw [Piece.inBrackets, List.cons_append, Piece.lineWidth_cons, Piece.lineWidth_append, opening,
    closing]
  omega

/-- The trees in a tree at a position, with their own positions. -/
def children (i : Nat) : Flow → List (Nat × Flow)
  | text .. => []
  | list items => placeItems i items
  | map entries =>
      (placeEntries i entries).map fun p => (p.1 + (Piece.key p.2.1).width, p.2.2)

theorem sizeOf_children {i : Nat} {t : Flow} {p : Nat × Flow} (member : p ∈ children i t)
    : sizeOf p.2 < sizeOf t := by
  cases t with
  | text => cases member
  | list items => exact sizeOf_lt_of_mem_items (mem_of_mem_place member)
  | map entries =>
      obtain ⟨q, inside, rfl⟩ := List.mem_map.mp member
      exact sizeOf_lt_of_mem_entries (mem_of_mem_place inside)

/-- A tree at a position has a property that it takes over from the trees in it. -/
theorem induction_children {P : Nat → Flow → Prop}
    (step : ∀ i t, (∀ p ∈ children i t, P p.1 p.2) → P i t) (i : Nat) (t : Flow)
    : P i t :=
  step i t fun p member =>
    have := sizeOf_children member
    induction_children step p.1 p.2
termination_by sizeOf t

theorem lt_children {i : Nat} {t : Flow} {p : Nat × Flow} (member : p ∈ children i t)
    : i < p.1 ∧ p.1 + p.2.width < i + t.width := by
  cases t with
  | text => cases member
  | list items =>
      have first := le_of_mem_place (a := p.2) member
      have last : p.1 + p.2.width ≤ i + 1 + Piece.lineWidth (Piece.commas (items.map pieces)) :=
        end_le_of_mem_place member
      have whole : (list items).width = Piece.lineWidth (Piece.commas (items.map pieces)) + 2 := by
        rw [width, pieces_list, lineWidth_inBrackets]
      omega
  | map entries =>
      obtain ⟨⟨j, e⟩, inside, rfl⟩ := List.mem_map.mp member
      have first := le_of_mem_place inside
      have last := end_le_of_mem_place inside
      rw [entryPieces, Piece.lineWidth_cons] at last
      rw [width, width, pieces_map, lineWidth_inBrackets]
      dsimp only
      omega

/-- Each tree in a tree stands behind the end of the one before it. -/
theorem pairwise_children (i : Nat) (t : Flow)
    : (children i t).Pairwise fun p q => p.1 + p.2.width < q.1 := by
  cases t with
  | text => exact .nil
  | list items => exact pairwise_place _ _ items
  | map entries =>
      refine List.pairwise_map.mpr ((pairwise_place _ _ entries).imp fun {p q} behind => ?_)
      rw [entryPieces, Piece.lineWidth_cons] at behind
      dsimp only
      rw [width]
      omega

-----------------------------------------------------------------------------------------
-- Collections inside of a tree
-----------------------------------------------------------------------------------------

def isCollection : Flow → Bool
  | text .. => false
  | _ => true

/-- The collections of a tree at a position, itself included. -/
def within (i : Nat) (t : Flow) : List (Nat × Flow) :=
  [(i, t)].filter (·.2.isCollection) ++ (children i t).attach.flatMap fun p => p.1.2.within p.1.1
termination_by sizeOf t
decreasing_by exact sizeOf_children p.2

/-- The collections inside of a tree at a position, without itself. -/
def inner (i : Nat) (t : Flow) : List (Nat × Flow) :=
  (children i t).flatMap fun p => p.2.within p.1

theorem within_eq (i : Nat) (t : Flow)
    : within i t = [(i, t)].filter (·.2.isCollection) ++ inner i t := by
  have whole : (children i t).attach.flatMap (fun p => p.1.2.within p.1.1) = inner i t := by
    rw [inner, List.flatMap_def, List.flatMap_def, ← List.attach_map_val (l := children i t)
      (f := fun p => p.2.within p.1)]
  rw [within, whole]

/-- The collections of a tree in a tree are among those inside of it. -/
theorem sublist_inner {i : Nat} {t : Flow} {p : Nat × Flow} (child : p ∈ children i t)
    : (within p.1 p.2).Sublist (inner i t) := by
  have whole := (List.singleton_sublist.mpr child).flatMap fun p => p.2.within p.1
  rwa [List.flatMap_singleton] at whole

theorem inner_sublist (i : Nat) (t : Flow) : (inner i t).Sublist (within i t) := by
  rw [within_eq]
  exact List.sublist_append_right _ _

theorem mem_itself {i : Nat} {t : Flow} {q : Nat × Flow}
    (member : q ∈ [(i, t)].filter (·.2.isCollection))
    : q = (i, t) ∧ t.isCollection = true := by
  obtain ⟨itself, collection⟩ := List.mem_filter.mp member
  obtain rfl := List.mem_singleton.mp itself
  exact ⟨rfl, collection⟩

theorem width_pos (t : Flow) : 0 < t.width := by
  cases t with
  | text escaped s => simp [width, pieces, Piece.lineWidth, Piece.lineText, Piece.text]
  | list items =>
      rw [width, pieces_list, lineWidth_inBrackets]
      omega
  | map entries =>
      rw [width, pieces_map, lineWidth_inBrackets]
      omega

/-- The collections of a tree stand inside of it. -/
theorem bounds_within {i : Nat} {t : Flow}
    : ∀ q ∈ within i t, i ≤ q.1 ∧ q.1 < i + t.width := by
  induction i, t using induction_children with
  | step i t ih =>
      intro q member
      rw [within_eq] at member
      rcases List.mem_append.mp member with itself | inside
      · obtain ⟨rfl, _⟩ := mem_itself itself
        exact ⟨Nat.le_refl i, Nat.lt_add_of_pos_right t.width_pos⟩
      · obtain ⟨p, child, inside⟩ := List.mem_flatMap.mp inside
        have := lt_children child
        have := ih p child q inside
        omega

theorem lt_of_mem_inner {i : Nat} {t : Flow} {q : Nat × Flow} (member : q ∈ inner i t)
    : i < q.1 := by
  obtain ⟨p, child, inside⟩ := List.mem_flatMap.mp member
  have := lt_children child
  have := bounds_within q inside
  omega

/-- The collections of a tree stand one behind the other, those that hold others before them. -/
theorem pairwise_within (i : Nat) (t : Flow) : (within i t).Pairwise fun p q => p.1 < q.1 := by
  induction i, t using induction_children with
  | step i t ih =>
      rw [within_eq, List.pairwise_append]
      refine ⟨(List.pairwise_singleton _ _).filter _, ?_, ?_⟩
      · rw [inner, List.pairwise_flatMap]
        refine ⟨ih, (pairwise_children i t).imp fun {p q} behind a inP b inQ => ?_⟩
        have := bounds_within a inP
        have := bounds_within b inQ
        omega
      · intro p itself q inside
        obtain ⟨rfl, _⟩ := mem_itself itself
        exact lt_of_mem_inner inside

/-- No two collections of a tree stand at the same position. -/
theorem nodup_within (i : Nat) (t : Flow) : ((within i t).map (·.1)).Nodup :=
  List.pairwise_map.mpr ((pairwise_within i t).imp Nat.ne_of_lt)

theorem isCollection_within {i : Nat} {t : Flow} : ∀ q ∈ within i t, q.2.isCollection = true := by
  induction i, t using induction_children with
  | step i t ih =>
      intro q member
      rw [within_eq] at member
      rcases List.mem_append.mp member with itself | inside
      · obtain ⟨rfl, collection⟩ := mem_itself itself
        exact collection
      · obtain ⟨p, child, inside⟩ := List.mem_flatMap.mp inside
        exact ih p child q inside

/-- A tree has no more collections than characters. -/
theorem length_within_le (i : Nat) (t : Flow) : (within i t).length ≤ t.width := by
  have placed : (within i t).map (·.1) ⊆ List.range' i t.width := by
    intro j member
    obtain ⟨q, inside, rfl⟩ := List.mem_map.mp member
    exact List.mem_range'_1.mpr (bounds_within q inside)
  have fewer := ((nodup_within i t).subperm placed).length_le
  rwa [List.length_map, List.length_range'] at fewer

end BlogSnapshot.Yaml.Flow
