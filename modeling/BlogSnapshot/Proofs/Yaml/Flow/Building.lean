import BlogSnapshot.Proofs.Frontmatter.QuotedTimestamp
import BlogSnapshot.Proofs.Index
import BlogSnapshot.Proofs.Yaml.Flow.Placement
import BlogSnapshot.Proofs.Yaml.Flow.Reading

/-! The value of a line in flow style. The collections of its document are filled level by level,
each with parts that stand for the collections in it, and put together as the value that was
written.
-/

namespace BlogSnapshot.Yaml

namespace Flow

/-- A tree at a position. -/
abbrev Placed := Nat × Flow

namespace Placed

def node (p : Placed) : Node :=
  p.2.node p.1

/-- The place of the node of a collection, which starts with its bracket. -/
def place (p : Placed) : Node.Place where
  position := p.1

/-- The trees in a tree. -/
def children (p : Placed) : List Placed :=
  Flow.children p.1 p.2

/-- The collections of a tree, itself included. -/
def within (p : Placed) : List Placed :=
  Flow.within p.1 p.2

/-- The collections inside of a tree, without itself. -/
def inner (p : Placed) : List Placed :=
  Flow.inner p.1 p.2

/-- The value of an entry whose key stands at a position. -/
def ofEntry (q : Nat × String × Flow) : Placed :=
  (q.1 + (Piece.key q.2.1).width, q.2.2)

/-- The nodes of an entry whose key stands at a position. -/
def entryNode (q : Nat × String × Flow) : Node × Node :=
  (.scalar Tag.str q.2.1 (.inLine q.1), (ofEntry q).node)

/-- The key of an entry whose key stands at a position. -/
def key (q : Nat × String × Flow) : Value.Key where
  value := .text q.2.1
  origin := if Scalar.spellsNoNumber q.2.1.toList then none else some q.1

theorem node_list (i : Nat) (items : List Flow)
    : node (i, .list items)
      = .sequence Tag.seq ((children (i, .list items)).map node) (.inLine i) :=
  Flow.node_list i items

theorem node_map (i : Nat) (entries : List (String × Flow))
    : node (i, .map entries)
      = .mapping Tag.map ((placeEntries i entries).map entryNode) (.inLine i) :=
  Flow.node_map i entries

theorem place_node (p : Placed) : p.node.place = p.place := by
  obtain ⟨i, t⟩ := p
  cases t with
  | text => rw [node, Flow.node]; rfl
  | list items => rw [node_list]; rfl
  | map entries =>
      rw [node_map]
      cases placed : placeEntries i entries with
      | nil => rfl
      | cons q qs =>
          have behind : i + 1 ≤ q.1 :=
            le_of_mem_place (a := q.2) (placed ▸ List.mem_cons_self)
          have apart : q.1 ≠ i := by omega
          exact congrArg (Node.Place.mk i) (decide_eq_false apart)

/-- The part of a collection that stands for a tree. -/
def part (p : Placed) : Value.Part :=
  match p.2 with
  | .text _ s => .leaf (.text s)
  | .list _ => .collection false p.place
  | .map _ => .collection true p.place

/-- The cell that a collection is filled into. -/
def cell (p : Placed) : Value.Cell :=
  match p.2 with
  | .map entries =>
      .map ((placeEntries p.1 entries).map fun q => (.text q.2.1, (ofEntry q).part))
  | _ => .list (p.children.map part)

end Placed

/-- No two collections of a tree stand at the same place. -/
theorem nodup_place (i : Nat) (t : Flow) : ((within i t).map Placed.place).Nodup :=
  List.pairwise_map.mpr ((pairwise_within i t).imp fun before same =>
    Nat.ne_of_lt before (congrArg Node.Place.position same))

/-- The trees that are collections. -/
def collections (ps : List Placed) : List Placed :=
  ps.filter (·.2.isCollection)

theorem Placed.within_eq (p : Placed)
    : p.within = collections [p] ++ (collections [p]).flatMap Placed.inner := by
  obtain ⟨i, t⟩ := p
  cases t with
  | text => rw [within, Flow.within_eq]; rfl
  | list | map =>
      rw [within, Flow.within_eq, collections, List.filter_singleton]
      simp [isCollection, inner]

/-- The collections among trees and inside of them, by induction on the trees. -/
theorem perm_within (ps : List Placed)
    : (ps.flatMap Placed.within).Perm
        (collections ps ++ (collections ps).flatMap Placed.inner) := by
  induction ps with
  | nil => exact .nil
  | cons p ps ih =>
      have split : collections (p :: ps) = collections [p] ++ collections ps :=
        List.filter_append [p] ps
      rw [List.flatMap_cons, p.within_eq, split]
      classical
      rw [List.perm_iff_count] at ih ⊢
      intro q
      have later := ih q
      simp only [List.flatMap_append, List.count_append] at later ⊢
      omega

theorem Placed.perm_inner (p : Placed)
    : p.inner.Perm (collections p.children ++ (collections p.children).flatMap Placed.inner) :=
  perm_within p.children

theorem WellFormed.children {t : Flow} (wellFormed : t.WellFormed) {i : Nat}
    : ∀ p ∈ Flow.children i t, p.2.WellFormed := by
  intro p member
  cases wellFormed with
  | text => cases member
  | list each => exact each p.2 (mem_of_mem_place member)
  | map keys distinct each =>
      obtain ⟨q, inside, rfl⟩ := List.mem_map.mp member
      exact each q.2 (mem_of_mem_place inside)

theorem WellFormed.within {i : Nat} {t : Flow} (wellFormed : t.WellFormed)
    : ∀ q ∈ Flow.within i t, q.2.WellFormed := by
  induction i, t using induction_children with
  | step i t ih =>
      intro q member
      rw [within_eq] at member
      rcases List.mem_append.mp member with itself | inside
      · obtain ⟨rfl, _⟩ := mem_itself itself
        exact wellFormed
      · obtain ⟨p, child, inside⟩ := List.mem_flatMap.mp inside
        exact ih p child (wellFormed.children p child) q inside

end Flow

namespace Value

open BlogSnapshot.Yaml.Flow

/-- The collections among trees wait to be filled after those that wait already. -/
def Filling.meet (f : Filling) (ps : List Placed) : Filling :=
  { f with
    met := ((collections ps).map Placed.place).reverse ++ f.met
    waiting := f.waiting ++ (collections ps).map Placed.node }

/-- No collection among trees was met before, and no two are the same. -/
def Filling.IsNew (f : Filling) (ps : List Placed) : Prop :=
  ((collections ps).map Placed.place ++ f.met).Nodup

variable {d : Document} {f : Filling}

theorem resolve_node (p : Placed) : d.resolve p.node = p.node := by
  obtain ⟨i, t⟩ := p
  cases t <;> rw [Placed.node, Flow.node] <;> rfl

theorem part_text (s : String) (i : Nat)
    : part d (.scalar Tag.str s (.inLine i)) f = .ok (.leaf (.text s), f) := by
  have built : leaf d f.store (.scalar Tag.str s (.inLine i)) = .ok (.text s) := leaf_quoted
  have noCollection : isCollectionTag (Node.scalar Tag.str s (.inLine i)).tag = false := rfl
  simp only [part, Document.resolve, noCollection, Bool.false_eq_true, if_false, leafOnce, built,
    Except.map]

/-- A collection that was not met waits to be filled. -/
theorem part_collection {p : Placed} (isMap : Bool)
    (tag : p.node.tag = if isMap then Tag.map else Tag.seq) (isNew : p.place ∉ f.met)
    : part d p.node f
      = .ok (.collection isMap p.place,
          { f with met := p.place :: f.met, waiting := f.waiting ++ [p.node] }) := by
  have notMet : f.met.contains p.place = false := by simpa using isNew
  have isTag : decide (p.node.tag = Tag.map) = isMap := by
    rw [tag]
    cases isMap <;> decide
  have collection : isCollectionTag p.node.tag = true := by
    rw [tag]
    cases isMap <;> rfl
  simp only [part, resolve_node, p.place_node, collection, if_true, notMet, Bool.false_eq_true,
    if_false, isTag]

/-- A tree becomes its part. -/
theorem part_node {p : Placed} (isNew : f.IsNew [p])
    : part d p.node f = .ok (p.part, f.meet [p]) := by
  obtain ⟨i, t⟩ := p
  cases t with
  | text escaped s =>
      rw [Placed.node, Flow.node, part_text]
      simp [Filling.meet, collections, isCollection, Placed.part]
  | list items =>
      have tag : Node.tag (Placed.node (i, .list items)) = Tag.seq := by
        rw [Placed.node_list]
        rfl
      exact part_collection false tag (List.nodup_cons.mp isNew).1
  | map entries =>
      have tag : Node.tag (Placed.node (i, .map entries)) = Tag.map := by
        rw [Placed.node_map]
        rfl
      exact part_collection true tag (List.nodup_cons.mp isNew).1

theorem Filling.meet_nil (f : Filling) : f.meet [] = f := by
  simp [meet, collections]

theorem Filling.meet_append (f : Filling) (ps qs : List Placed)
    : (f.meet ps).meet qs = f.meet (ps ++ qs) := by
  simp [meet, collections]

theorem Filling.IsNew.append {ps qs : List Placed} (isNew : f.IsNew (ps ++ qs))
    : f.IsNew ps ∧ (f.meet ps).IsNew qs := by
  simp only [IsNew, meet, collections, List.filter_append, List.map_append] at isNew ⊢
  refine ⟨isNew.sublist ((List.sublist_append_left _ _).append_right _), ?_⟩
  refine (List.Perm.nodup_iff ?_).mpr isNew
  rw [List.append_assoc]
  exact (((List.reverse_perm _).append_right _).append_left _).trans
    (List.perm_append_comm_assoc _ _ _)

/-- Trees become their parts, by induction on them. -/
theorem parts_node {ps : List Placed} (isNew : f.IsNew ps)
    : parts d (ps.map Placed.node) f = .ok (ps.map Placed.part, f.meet ps) := by
  induction ps generalizing f with
  | nil => rw [Filling.meet_nil]; rfl
  | cons p ps ih =>
      have whole : f.IsNew ([p] ++ ps) := isNew
      obtain ⟨first, others⟩ := whole.append
      rw [List.map_cons, parts, part_node first]
      simp only [bind, Except.bind, ih others, Filling.meet_append]
      rfl

-----------------------------------------------------------------------------------------
-- Cells
-----------------------------------------------------------------------------------------

theorem key_of (s : Store) (q : Nat × String × Flow)
    : Key.of d s (.scalar Tag.str q.2.1 (.inLine q.1)) (.text q.2.1) = Placed.key q := by
  simp [Key.of, Document.resolve, scalarText, Placed.key, Node.start, Mark.inLine]

theorem setPart_new {key : Key} {name : String} (isText : key.value = .text name) (made : Part)
    {done : List (Key × Part)} (isNew : ∀ e ∈ done, e.1.value.sameKey (.text name) = false)
    : mapEntries.setPart key made done = done ++ [(key, made)] := by
  induction done with
  | nil => rfl
  | cons e rest ih =>
      obtain ⟨first, others⟩ := List.forall_mem_cons.mp isNew
      have other : e.1.same key = false := by simp [Key.same, isText, first, isNoNumber]
      rw [mapEntries.setPart, other, ih others]
      rfl

/-- Entries become their keys and parts, by induction on them. -/
theorem mapEntries_node (start : Mark) {qs : List (Nat × String × Flow)}
    (distinct : (qs.map (·.2.1)).Nodup) {done : List (Key × Part)}
    (apart : ∀ e ∈ done, ∀ q ∈ qs, e.1.value.sameKey (.text q.2.1) = false)
    (isNew : f.IsNew (qs.map Placed.ofEntry))
    : mapEntries d start done (qs.map Placed.entryNode) f
      = .ok (done ++ qs.map fun q => (Placed.key q, (Placed.ofEntry q).part),
          f.meet (qs.map Placed.ofEntry)) := by
  induction qs generalizing done f with
  | nil =>
      rw [List.map_nil, List.map_nil, List.map_nil, Filling.meet_nil, List.append_nil]
      rfl
  | cons q qs ih =>
      have whole : f.IsNew ([Placed.ofEntry q] ++ qs.map Placed.ofEntry) := isNew
      obtain ⟨first, others⟩ := whole.append
      obtain ⟨new, distinct⟩ := List.nodup_cons.mp distinct
      have set := setPart_new (rfl : (Placed.key q).value = .text q.2.1) (Placed.ofEntry q).part
        fun e member => apart e member q List.mem_cons_self
      have apart' : ∀ e ∈ done ++ [(Placed.key q, (Placed.ofEntry q).part)], ∀ r ∈ qs,
          e.1.value.sameKey (.text r.2.1) = false := by
        intro e member r inside
        rcases List.mem_append.mp member with before | last
        · exact apart e before r (List.mem_cons_of_mem q inside)
        · have other : q.2.1 ≠ r.2.1 := fun same =>
            new (List.mem_map.mpr ⟨r, inside, same.symm⟩)
          rw [List.mem_singleton.mp last]
          exact decide_eq_false other
      have later := ih distinct apart' others
      rw [List.map_cons, Placed.entryNode, mapEntries, part_text]
      simp only [bind, Except.bind, key_of, part_node first, set, later, Filling.meet_append]
      simp

theorem takeMerge_node (qs : List (Nat × String × Flow))
    : takeMerge d (qs.map Placed.entryNode) = none := by
  have noMerge : Tag.str ≠ Tag.merge := by decide
  induction qs with
  | nil => rfl
  | cons q qs ih => simp [takeMerge, Placed.entryNode, Document.resolve, Node.tag, noMerge, ih]

theorem entries_node (qs : List (Nat × String × Flow)) (start : Mark)
    : Store.entries {} (.mapping Tag.map (qs.map Placed.entryNode) start)
      = qs.map Placed.entryNode :=
  rfl

/-- No key of a mapping becomes text where none is that of a default entry. -/
theorem finish_node (qs : List (Nat × String × Flow)) (start : Mark)
    : Store.finish d (.mapping Tag.map (qs.map Placed.entryNode) start) [] {} = {} := by
  have noValue : Tag.str ≠ Tag.value := by decide
  have noText : ((qs.map Placed.entryNode).map fun e => d.resolve e.1).filter
      (·.tag = Tag.value) = [] := by
    refine List.filter_eq_nil_iff.mpr fun n member => ?_
    obtain ⟨e, isEntry, rfl⟩ := List.mem_map.mp member
    obtain ⟨q, _, rfl⟩ := List.mem_map.mp isEntry
    simp [Placed.entryNode, Document.resolve, Node.tag, noValue]
  simp only [Store.finish, List.isEmpty_nil, if_true, Store.keysAsText, entries_node, noText]
  rfl

/-- A mapping without merge entries leaves the nodes as they are. -/
theorem flatten_node (qs : List (Nat × String × Flow)) (start : Mark) (fuel : Nat)
    : flatten d fuel [] (.mapping Tag.map (qs.map Placed.entryNode) start) {} = .ok {} := by
  cases fuel with
  | zero => rw [flatten, finish_node]
  | succ fuel => simp only [flatten, entries_node, takeMerge_node, finish_node]

/-- A collection is filled with the parts of the trees in it. -/
theorem fillOne_node {p : Placed} (wellFormed : p.2.WellFormed)
    (collection : p.2.isCollection = true) (unchanged : f.store = {}) (isNew : f.IsNew p.children)
    : fillOne d p.node f = .ok (p.cell, f.meet p.children) := by
  obtain ⟨i, t⟩ := p
  unfold fillOne
  cases wellFormed with
  | text => cases collection
  | @list items each =>
      rw [Placed.node_list]
      refine (if_pos rfl).trans ?_
      simp only [parts_node isNew, bind, Except.bind]
      rfl
  | @map entries keys distinct each =>
      have noSeq : ¬ Tag.map = Tag.seq := by decide
      have noSet : ¬ Tag.map = Tag.set := by decide
      have noPairs : ¬ (decide (Tag.map = Tag.omap) || decide (Tag.map = Tag.pairs)) = true := by
        decide
      have names : (placeEntries i entries).map (·.2.1) = entries.map (·.1) :=
        map_place _ _ entries (·.1)
      have filled := mapEntries_node (d := d) (.inLine i) (names ▸ distinct)
        (List.forall_mem_nil _) isNew
      rw [Placed.node_map]
      refine (if_neg noSeq).trans ((if_neg noPairs).trans ?_)
      have same : { f with store := ({} : Store) } = f := by rw [← unchanged]
      simp only [unchanged, flatten_node, entries_node, same, filled, bind, Except.bind]
      refine (congrArg (fun cell => Except.ok (cell, _)) (if_neg noSet)).trans ?_
      rw [List.nil_append, List.map_map]
      rfl

-----------------------------------------------------------------------------------------
-- Filling
-----------------------------------------------------------------------------------------

/-- The collections of a tree are filled up to those that are pending and those inside of them. -/
structure Filling.Progress (all visited pending : List Placed) (f : Filling) : Prop where
  waiting : f.waiting = pending.map Placed.node
  store : f.store = {}
  met : f.met.Perm ((visited ++ pending).map Placed.place)
  whole : (visited ++ pending ++ pending.flatMap Placed.inner).Perm all

namespace Filling.Progress

variable {all visited pending : List Placed} {p : Placed}

theorem isNew (progress : f.Progress all visited (p :: pending))
    (nodup : (all.map Placed.place).Nodup)
    : f.IsNew p.children := by
  have whole :
      (collections p.children ++ (visited ++ p :: pending)
        ++ ((collections p.children).flatMap Placed.inner ++ pending.flatMap Placed.inner)).Perm
      all := by
    refine .trans ?_ progress.whole
    classical
    rw [List.perm_iff_count]
    intro q
    have inner := p.perm_inner.count_eq q
    simp only [List.flatMap_cons, List.count_append] at inner ⊢
    omega
  have positions := (whole.map Placed.place).nodup_iff.mpr nodup
  rw [List.map_append, List.map_append] at positions
  exact ((progress.met.append_left _).nodup_iff).mpr (List.nodup_append.mp positions).1

theorem step (progress : f.Progress all visited (p :: pending))
    : (Filling.meet { f with waiting := pending.map Placed.node } p.children).Progress all
        (p :: visited) (pending ++ collections p.children) where
  waiting := by simp [meet]
  store := progress.store
  met := by
    refine ((List.reverse_perm _).append progress.met).trans ?_
    rw [← List.map_append]
    refine List.Perm.map _ ?_
    classical
    rw [List.perm_iff_count]
    intro q
    simp only [List.count_append, List.count_cons, List.cons_append]
    omega
  whole := by
    refine .trans ?_ progress.whole
    classical
    rw [List.perm_iff_count]
    intro q
    have inner := p.perm_inner.count_eq q
    simp only [List.flatMap_cons, List.flatMap_append, List.count_append, List.count_cons,
      List.cons_append] at inner ⊢
    omega

end Filling.Progress

/-- All collections of a tree are filled, by induction on the fuel. -/
theorem fill_progress {all visited pending : List Placed} (nodup : (all.map Placed.place).Nodup)
    (wellFormed : ∀ p ∈ all, p.2.WellFormed) (collection : ∀ p ∈ all, p.2.isCollection = true)
    {fuel : Nat} (enough : all.length < visited.length + fuel)
    (progress : f.Progress all visited pending)
    : ∃ filled : List Placed,
        fill d fuel (visited.map fun p => (p.place, p.cell)) f
          = .ok (filled.map fun p => (p.place, p.cell))
        ∧ filled.Perm all := by
  induction fuel generalizing visited pending f with
  | zero =>
      have := progress.whole.length_eq
      simp only [List.length_append] at this
      omega
  | succ fuel ih =>
      cases pending with
      | nil =>
          refine ⟨visited, ?_, by simpa using progress.whole⟩
          rw [fill, progress.waiting]
          rfl
      | cons p pending =>
          have member : p ∈ all := progress.whole.mem_iff.mp (by simp)
          have made := fillOne_node (d := d) (f := { f with waiting := pending.map Placed.node })
            (wellFormed p member) (collection p member) progress.store (progress.isNew nodup)
          obtain ⟨filled, ran, perm⟩ := ih (by rw [List.length_cons]; omega) progress.step
          refine ⟨filled, ?_, perm⟩
          rw [fill, progress.waiting]
          simp only [List.map_cons, made, bind, Except.bind]
          rw [Placed.place_node]
          exact ran

-----------------------------------------------------------------------------------------
-- Values
-----------------------------------------------------------------------------------------

/-- What is put together of the trees in a collection. -/
theorem map_parts {i : Nat} {items : List Flow} {g : Part → Value}
    (made : ∀ p ∈ children i (.list items), g (Placed.part p) = p.2.value)
    : ((children i (.list items)).map Placed.part).map g = items.map Flow.value := by
  rw [List.map_map, ← map_place width (i + 1) items Flow.value]
  exact List.map_congr_left made

theorem map_entries {i : Nat} {entries : List (String × Flow)} {g : Part → Value}
    (made : ∀ p ∈ children i (.map entries), g (Placed.part p) = p.2.value)
    : ((placeEntries i entries).map fun q => (Value.text q.2.1, (Placed.ofEntry q).part)).map
          (fun e => (e.1, g e.2))
      = entries.map fun e => (.text e.1, e.2.value) := by
  rw [List.map_map, ← map_place (fun e => Piece.lineWidth (entryPieces e)) (i + 1) entries
    fun e => (Value.text e.1, e.2.value)]
  refine List.map_congr_left fun q member => ?_
  exact congrArg (Value.text q.2.1, ·) (made (Placed.ofEntry q) (List.mem_map_of_mem member))

/-- Filled collections are put together as the value of a tree, by induction on the tree. No
collection is inside of itself, so that none is met as open.
-/
theorem assemble_part {cells : List (Node.Place × Cell)} (i : Nat) (t : Flow)
    (filled : ∀ q ∈ Flow.within i t, cells.lookup (Placed.place q) = some (Placed.cell q))
    {opened : List Node.Place} (apart : ∀ q ∈ Flow.within i t, Placed.place q ∉ opened) {fuel : Nat}
    (enough : (Flow.within i t).length < fuel)
    : assemble cells opened fuel (Placed.part (i, t)) = t.value := by
  induction i, t using induction_children generalizing opened fuel with
  | step i t ih =>
      obtain ⟨fuel, rfl⟩ := Nat.exists_eq_add_one.mpr (show 0 < fuel by omega)
      cases collection : t.isCollection with
      | false =>
          cases t with
          | text escaped s =>
              rw [Flow.value]
              rfl
          | list | map => cases collection
      | true =>
          rw [Flow.within_eq, List.filter_singleton, collection] at filled apart enough
          simp only [cond_true, List.cons_append, List.nil_append, List.forall_mem_cons,
            List.length_cons] at filled apart enough
          have closed : opened.contains (Placed.place (i, t)) = false := by simpa using apart.1
          have made : ∀ p ∈ children i t,
              assemble cells (Placed.place (i, t) :: opened) fuel (Placed.part p) = p.2.value := by
            intro p child
            have inside := sublist_inner child
            have fewer := inside.length_le
            refine ih p child (fun q within => filled.2 q (inside.subset within)) ?_ (by omega)
            intro q within
            have behind := lt_of_mem_inner (inside.subset within)
            exact List.not_mem_cons_of_ne_of_not_mem
              (fun same => behind.ne' (congrArg Node.Place.position same))
              (apart.2 q (inside.subset within))
          cases t with
          | text => cases collection
          | list items =>
              simp only [Placed.part, assemble, closed, filled.1, Bool.false_eq_true, if_false]
              rw [Flow.value]
              exact congrArg Value.list (map_parts made)
          | map entries =>
              simp only [Placed.part, assemble, closed, filled.1, Bool.false_eq_true, if_false]
              rw [Flow.value]
              exact congrArg Value.map (map_entries made)

/-- Filled collections are put together as the value of a root. -/
theorem assembleRoot_part {cells : List (Node.Place × Cell)} {i : Nat} {t : Flow}
    (filled : ∀ q ∈ Flow.within i t, cells.lookup (Placed.place q) = some (Placed.cell q))
    (enough : (Flow.within i t).length ≤ cells.length)
    : assembleRoot cells (Placed.part (i, t)) = t.value := by
  have assembled (j : Nat) (s : Flow) (inside : (Flow.within j s).Sublist (Flow.within i t))
      : assemble cells [] (cells.length + 2) (Placed.part (j, s)) = s.value := by
    have fewer := inside.length_le
    exact assemble_part j s (fun q within => filled q (inside.subset within))
      (fun _ _ => List.not_mem_nil) (by omega)
  cases t with
  | text escaped s => exact assembled i _ (List.Sublist.refl _)
  | list items =>
      have found := filled (i, .list items) (by simp [Flow.within_eq, isCollection])
      simp only [assembleRoot, Placed.part, found, Placed.cell]
      exact assembled i _ (List.Sublist.refl _)
  | map entries =>
      have found := filled (i, .map entries) (by simp [Flow.within_eq, isCollection])
      simp only [assembleRoot, Placed.part, found, Placed.cell]
      rw [Flow.value]
      exact congrArg Value.map (map_entries fun p child =>
        assembled p.1 p.2 ((sublist_inner child).trans (inner_sublist i _)))

-----------------------------------------------------------------------------------------
-- Documents
-----------------------------------------------------------------------------------------

theorem Filling.isNew_single (p : Placed) : Filling.IsNew {} [p] := by
  simp only [IsNew, collections, List.filter_singleton, List.append_nil]
  cases p.2.isCollection
  · exact List.nodup_nil
  · exact List.nodup_singleton _

/-- What waits to be filled at first are the collections of the root. -/
theorem Filling.progress_single (p : Placed)
    : (Filling.meet {} [p]).Progress p.within [] (collections [p]) where
  waiting := rfl
  store := rfl
  met := by
    rw [meet, List.append_nil]
    exact List.reverse_perm _
  whole := .of_eq p.within_eq.symm

/-- The document of a tree has the value of the tree. -/
theorem ofDocument_node {t : Flow} (wellFormed : t.WellFormed) {size : Nat}
    (enough : t.width ≤ size)
    : ofDocument size ⟨t.node 0, []⟩ = .ok t.value := by
  have distinct := nodup_place 0 t
  have enough : (Flow.within 0 t).length < ([] : List Placed).length + (size + 2) := by
    have := length_within_le 0 t
    rw [List.length_nil]
    omega
  have started : part ⟨t.node 0, []⟩ (t.node 0) {} = _ := part_node (Filling.isNew_single (0, t))
  obtain ⟨filled, ran, perm⟩ := fill_progress (d := ⟨t.node 0, []⟩) distinct wellFormed.within
    isCollection_within enough (Filling.progress_single (0, t))
  have found : ∀ q ∈ Flow.within 0 t,
      (filled.map fun p => (p.place, p.cell)).lookup (Placed.place q) = some (Placed.cell q) := by
    intro q member
    rw [Index.lookup_eq_some_iff_mem]
    · exact List.mem_map_of_mem (perm.mem_iff.mpr member)
    · rw [List.map_map]
      exact (perm.map _).nodup_iff.mpr distinct
  have assembled := assembleRoot_part found (by rw [List.length_map, perm.length_eq])
  exact (bind_eq_ok_iff _ _ _).mpr
    ⟨_, started, (bind_eq_ok_iff _ _ _).mpr ⟨_, ran, congrArg Except.ok assembled⟩⟩

end Value

/-- A line in flow style has the value of its tree. -/
theorem Flow.WellFormed.load_lineText {t : Flow} (wellFormed : t.WellFormed)
    : load t.lineText = .ok t.value := by
  rw [load, wellFormed.ofText_lineText]
  exact Value.ofDocument_node wellFormed (Nat.le_refl _)

end BlogSnapshot.Yaml
