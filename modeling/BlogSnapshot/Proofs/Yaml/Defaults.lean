import BlogSnapshot.Proofs.Yaml.Reached
import Mathlib.Data.Finset.Card

/-! Default entries that have no end. The text of a mapping in the place of a scalar is that of the
value of its default entry, which may be such a mapping again. More of these than a document has
nodes come back to one of them, and go on for ever.
-/

namespace BlogSnapshot.Yaml

namespace Node

mutual

/-- The nodes in a node, itself included. -/
def nodes : Node → List Node
  | n@(sequence _ items _) => n :: nodesOfItems items
  | n@(mapping _ entries _) => n :: nodesOfEntries entries
  | n => [n]

def nodesOfItems : List Node → List Node
  | [] => []
  | n :: ns => n.nodes ++ nodesOfItems ns

def nodesOfEntries : List (Node × Node) → List Node
  | [] => []
  | (k, v) :: rest => k.nodes ++ v.nodes ++ nodesOfEntries rest

end

mutual

theorem length_nodes (n : Node) : n.nodes.length = n.count := by
  cases n with
  | sequence tag items start => rw [nodes, List.length_cons, length_nodesOfItems items, count]
  | mapping tag entries start =>
      rw [nodes, List.length_cons, length_nodesOfEntries entries, count]
  | scalar => rfl
  | aliasTo => rfl

theorem length_nodesOfItems (ns : List Node) : (nodesOfItems ns).length = countItems ns := by
  cases ns with
  | nil => rfl
  | cons n rest =>
      rw [nodesOfItems, List.length_append, length_nodes n, length_nodesOfItems rest, countItems]

theorem length_nodesOfEntries (entries : List (Node × Node))
    : (nodesOfEntries entries).length = countEntries entries := by
  cases entries with
  | nil => rfl
  | cons e rest =>
      obtain ⟨k, v⟩ := e
      rw [nodesOfEntries, List.length_append, List.length_append, length_nodes k, length_nodes v,
        length_nodesOfEntries rest, countEntries]

end

theorem mem_nodes (n : Node) : n ∈ n.nodes := by
  cases n <;> simp [nodes]

theorem nodes_subset_of_mem_items {n : Node} {ns : List Node} (member : n ∈ ns)
    : n.nodes ⊆ nodesOfItems ns := by
  induction ns with
  | nil => cases member
  | cons m rest ih =>
      rw [nodesOfItems]
      rcases List.mem_cons.mp member with rfl | member
      · exact List.subset_append_left _ _
      · exact List.subset_append_of_subset_right _ (ih member)

theorem nodes_subset_of_mem_entries {e : Node × Node} {entries : List (Node × Node)}
    (member : e ∈ entries)
    : e.1.nodes ⊆ nodesOfEntries entries ∧ e.2.nodes ⊆ nodesOfEntries entries := by
  induction entries with
  | nil => cases member
  | cons f rest ih =>
      rw [nodesOfEntries]
      rcases List.mem_cons.mp member with rfl | member
      · constructor <;> intro n <;> simp +contextual
      · obtain ⟨ofKey, ofValue⟩ := ih member
        exact ⟨List.subset_append_of_subset_right _ ofKey,
          List.subset_append_of_subset_right _ ofValue⟩

end Node

/-- The nodes of a document, those under its anchors once more. -/
def Document.nodes (d : Document) : List Node :=
  d.root.nodes ++ Node.nodesOfItems (d.anchors.map (·.2))

/-- The nodes in a node are nodes of a document. -/
def Document.Includes (d : Document) (n : Node) : Prop :=
  n.nodes ⊆ d.nodes

namespace Document

variable (d : Document)

theorem length_nodes : d.nodes.length = d.count := by
  rw [nodes, List.length_append, Node.length_nodes, Node.length_nodesOfItems, count]

theorem includes_root : d.Includes d.root :=
  List.subset_append_left _ _

theorem includes_passesOn : d.PassesOn d.Includes where
  resolve := by
    refine resolve_holds fun a isAnchor => ?_
    have member : a.2 ∈ d.anchors.map (·.2) := List.mem_map_of_mem isAnchor
    exact List.subset_append_of_subset_right _ (Node.nodes_subset_of_mem_items member)
  items := by
    intro tag items start included n member
    have inside : Node.nodesOfItems items ⊆ d.nodes :=
      List.Subset.trans (List.subset_cons_self _ _) included
    exact List.Subset.trans (Node.nodes_subset_of_mem_items member) inside
  entries := by
    intro tag entries start included e member
    have inside : Node.nodesOfEntries entries ⊆ d.nodes :=
      List.Subset.trans (List.subset_cons_self _ _) included
    obtain ⟨ofKey, ofValue⟩ := Node.nodes_subset_of_mem_entries member
    exact ⟨List.Subset.trans ofKey inside, List.Subset.trans ofValue inside⟩

end Document

namespace Value

variable (d : Document) (s : Store)

/-- The node that a mapping in the place of a scalar stands for: the value of its default entry. -/
def defaultOf : Node → Option Node
  | n@(.mapping ..) =>
      ((s.entries n).find? fun e => s.tag (d.resolve e.1) = Tag.value).map fun e => d.resolve e.2
  | _ => none

/-- The node that is reached by so many default entries. -/
def defaultAfter : Nat → Node → Option Node
  | 0, n => some n
  | k + 1, n => (defaultOf d s n).bind (defaultAfter k)

variable {d s} {n : Node}

theorem defaultAfter_add (j k : Nat) (n : Node)
    : defaultAfter d s (j + k) n = (defaultAfter d s j n).bind (defaultAfter d s k) := by
  induction j generalizing n with
  | zero => rw [Nat.zero_add]; rfl
  | succ j ih =>
      rw [Nat.succ_add, defaultAfter, defaultAfter, Option.bind_assoc]
      exact congrArg _ (funext ih)

theorem defaultAfter_isSome_of_le {j k : Nat} (le : j ≤ k)
    (reached : (defaultAfter d s k n).isSome)
    : (defaultAfter d s j n).isSome := by
  obtain ⟨rest, rfl⟩ := Nat.exists_eq_add_of_le le
  rw [defaultAfter_add] at reached
  exact Option.isSome_of_isSome_bind reached

/-- Nodes of a document are reached from its nodes, by induction on the number of entries. -/
theorem includes_of_defaultAfter (ofStore : s.Holds d.Includes) (ofNode : d.Includes n) {k : Nat}
    {m : Node} (reached : defaultAfter d s k n = some m)
    : d.Includes m := by
  have passes := d.includes_passesOn
  induction k generalizing n with
  | zero => exact Option.some.inj reached ▸ ofNode
  | succ k ih =>
      obtain ⟨next, isDefault, reached⟩ := Option.bind_eq_some_iff.mp reached
      refine ih ?_ reached
      unfold defaultOf at isDefault
      split at isDefault
      · obtain ⟨e, found, rfl⟩ := Option.map_eq_some_iff.mp isDefault
        have member := List.mem_of_find?_eq_some found
        exact passes.resolve (ofStore.entries passes ofNode e member).2
      · cases isDefault

/-- The descent for the text of a node runs out exactly at a node that is reached and has no text of
its own, by induction on the fuel.
-/
theorem scalarText_endless_iff {fuel : Nat}
    : scalarText d s fuel n = .error (.fault .endlessText)
      ↔ ∃ m, defaultAfter d s fuel n = some m
          ∧ scalarText d s 0 m = .error (.fault .endlessText) := by
  induction fuel generalizing n with
  | zero => simp [defaultAfter]
  | succ fuel ih =>
      cases n with
      | mapping tag own start =>
          simp only [scalarText, defaultAfter, defaultOf]
          cases found : (s.entries (.mapping tag own start)).find?
              fun e => s.tag (d.resolve e.1) = Tag.value with
          | none => simp [failAt]
          | some e => simpa using ih
      | scalar | sequence | aliasTo => simp [scalarText, defaultAfter, defaultOf, failAt]

/-- The only fault of a node in the place of a scalar, by induction on the fuel. -/
theorem fault_eq_endlessText {fuel : Nat} {fault : ScalarFault}
    (refused : scalarText d s fuel n = .error (.fault fault))
    : fault = .endlessText := by
  induction fuel generalizing n with
  | zero =>
      cases n with
      | scalar => cases refused
      | sequence | mapping | aliasTo =>
          cases refused
          rfl
  | succ fuel ih =>
      cases n with
      | mapping =>
          simp only [scalarText] at refused
          split at refused
          · exact ih refused
          · cases refused
      | scalar | sequence | aliasTo => cases refused

/-- As many default entries as a document has nodes come back to a node. -/
theorem exists_repeated (ofStore : s.Holds d.Includes) (ofNode : d.Includes n)
    (reached : (defaultAfter d s d.count n).isSome)
    : ∃ i j, i < j ∧ j ≤ d.count ∧ defaultAfter d s i n = defaultAfter d s j n := by
  classical
  have inside (i : Nat) (le : i < d.count + 1)
      : defaultAfter d s i n ∈ (d.nodes.map some).toFinset := by
    obtain ⟨m, found⟩ := Option.isSome_iff_exists.mp
      (defaultAfter_isSome_of_le (Nat.le_of_lt_succ le) reached)
    rw [found, List.mem_toFinset]
    exact List.mem_map_of_mem (includes_of_defaultAfter ofStore ofNode found m.mem_nodes)
  have fewer : (d.nodes.map some).toFinset.card < (Finset.range (d.count + 1)).card := by
    have := (d.nodes.map some).toFinset_card_le
    rw [List.length_map, d.length_nodes] at this
    rw [Finset.card_range]
    omega
  obtain ⟨i, iIn, j, jIn, other, same⟩ := Finset.exists_ne_map_eq_of_card_lt_of_maps_to fewer
    fun i member => inside i (Finset.mem_range.mp member)
  rw [Finset.mem_range] at iIn jIn
  rcases Nat.lt_or_gt_of_ne other with before | after
  · exact ⟨i, j, before, by omega, same⟩
  · exact ⟨j, i, after, by omega, same.symm⟩

/-- Default entries that come back to a node go on for ever, by induction on their number. -/
theorem defaultAfter_isSome_of_repeated {i j : Nat} (before : i < j)
    (same : defaultAfter d s i n = defaultAfter d s j n) (reached : (defaultAfter d s j n).isSome)
    (k : Nat)
    : (defaultAfter d s k n).isSome := by
  induction k using Nat.strongRecOn with
  | ind k ih =>
      rcases Nat.le_total k j with le | ge
      · exact defaultAfter_isSome_of_le le reached
      · obtain ⟨rest, rfl⟩ := Nat.exists_eq_add_of_le ge
        rw [defaultAfter_add, ← same, ← defaultAfter_add]
        exact ih _ (by omega)

/-- A node that leads to another one has no text of its own. -/
theorem scalarText_zero_of_default {m : Node} (isDefault : (defaultOf d s m).isSome)
    : scalarText d s 0 m = .error (.fault .endlessText) := by
  cases m with
  | mapping => rfl
  | scalar | sequence | aliasTo => cases isDefault

/-- A node that is refused in the place of a scalar, and not with an error of the text, leads to
default entries without end: no number of steps finds its text.
-/
theorem endless_of_scalarText (ofStore : s.Holds d.Includes) (ofNode : d.Includes n)
    (refused : scalarText d s (d.count + 1) n = .error (.fault .endlessText)) (fuel : Nat)
    : scalarText d s fuel n = .error (.fault .endlessText) := by
  obtain ⟨last, found, _⟩ := scalarText_endless_iff.mp refused
  have reached : (defaultAfter d s d.count n).isSome :=
    defaultAfter_isSome_of_le (Nat.le_succ _) (Option.isSome_of_eq_some found)
  obtain ⟨i, j, before, le, same⟩ := exists_repeated ofStore ofNode reached
  have more := defaultAfter_isSome_of_repeated before same
    (defaultAfter_isSome_of_le le reached) (fuel + 1)
  obtain ⟨m, found⟩ := Option.isSome_iff_exists.mp
    (defaultAfter_isSome_of_le (Nat.le_succ fuel) more)
  refine scalarText_endless_iff.mpr ⟨m, found, scalarText_zero_of_default ?_⟩
  rw [defaultAfter_add, found] at more
  exact Option.isSome_of_isSome_bind more

end Value

end BlogSnapshot.Yaml
