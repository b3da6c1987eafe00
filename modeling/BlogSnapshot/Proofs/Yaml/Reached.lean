import BlogSnapshot.Proofs.Steps
import BlogSnapshot.Yaml.Value.OfDocument

/-! What building the values of a document comes to. A property that nodes pass on to their parts
and to the nodes that they refer to holds of all that wait to be filled, and of the entries that
mappings get when they merge others.
-/

namespace BlogSnapshot.Yaml

theorem mem_of_lookup {α β : Type} [BEq α] [LawfulBEq α] {entries : List (α × β)} {a : α} {b : β}
    (found : entries.lookup a = some b)
    : (a, b) ∈ entries := by
  obtain ⟨before, after, rfl, _⟩ := List.lookup_eq_some_iff.mp found
  exact List.mem_append_right _ List.mem_cons_self

/-- What a node stands for has a property of the node and of the nodes under anchors. -/
theorem Document.resolve_holds {d : Document} {P : Node → Prop} (anchors : ∀ a ∈ d.anchors, P a.2)
    {n : Node} (h : P n)
    : P (d.resolve n) := by
  cases n with
  | aliasTo name =>
      simp only [resolve]
      cases found : d.anchors.lookup name with
      | none => exact h
      | some n => exact anchors _ (mem_of_lookup found)
  | scalar | sequence | mapping => exact h

/-- Entries whose keys and values have a property. -/
def Node.EntriesHold (P : Node → Prop) (entries : List (Node × Node)) : Prop :=
  ∀ e ∈ entries, P e.1 ∧ P e.2

/-- A property that nodes pass on to their parts, and to the nodes that they stand for. -/
structure Document.PassesOn (d : Document) (P : Node → Prop) : Prop where
  resolve {n : Node} (h : P n) : P (d.resolve n)
  items {tag : String} {items : List Node} {start : Mark} (h : P (.sequence tag items start))
    : ∀ n ∈ items, P n
  entries {tag : String} {entries : List (Node × Node)} {start : Mark}
    (h : P (.mapping tag entries start))
    : Node.EntriesHold P entries

namespace Value

open Node (EntriesHold)

/-- The entries that mappings got have a property. -/
def Store.Holds (P : Node → Prop) (s : Store) : Prop :=
  ∀ c ∈ s.changed, EntriesHold P c.2

/-- A finished part has a property; that of a collection is not known yet. -/
def Part.Holds (Q : Value → Prop) : Part → Prop
  | .leaf v => Q v
  | .collection .. => True

/-- Entries whose keys and parts have a property. -/
def KeyedHold (Q : Value → Prop) (entries : List (Key × Part)) : Prop :=
  ∀ e ∈ entries, Q e.1.value ∧ e.2.Holds Q

/-- The nodes that a filling comes to have a property, and so have the values that it keeps. -/
structure Filling.Holds (P : Node → Prop) (Q : Value → Prop) (f : Filling) : Prop where
  waiting : ∀ n ∈ f.waiting, P n
  store : f.store.Holds P
  built : ∀ b ∈ f.built, Q b.2

theorem Filling.holds_empty (P : Node → Prop) (Q : Value → Prop) : Filling.Holds P Q {} :=
  ⟨List.forall_mem_nil _, List.forall_mem_nil _, List.forall_mem_nil _⟩

variable {d : Document} {P : Node → Prop} (passes : d.PassesOn P)

-----------------------------------------------------------------------------------------
-- Merging
-----------------------------------------------------------------------------------------

section

variable {s : Store} (h : s.Holds P)

include passes h

theorem Store.Holds.entries {n : Node} (ofNode : P n) : EntriesHold P (s.entries n) := by
  cases n with
  | mapping tag own start =>
      show EntriesHold P ((s.changed.lookup _).getD own)
      cases found : s.changed.lookup (Node.mapping tag own start).place with
      | none => exact passes.entries ofNode
      | some entries => exact h _ (mem_of_lookup found)
  | scalar | sequence | aliasTo => exact List.forall_mem_nil _

omit passes in
theorem Store.Holds.setEntries (n : Node) {entries : List (Node × Node)}
    (all : EntriesHold P entries)
    : (s.setEntries n entries).Holds P :=
  List.forall_mem_cons.mpr ⟨all, h⟩

/-- Keys that become text are no entries. -/
theorem Store.Holds.finish {n : Node} (ofNode : P n) {merged : List (Node × Node)}
    (all : EntriesHold P merged)
    : (s.finish d n merged).Holds P := by
  have put : (if merged.isEmpty then s else s.setEntries n (merged ++ s.entries n)).Holds P := by
    split
    · exact h
    · exact h.setEntries n (List.forall_mem_append.mpr ⟨all, h.entries passes ofNode⟩)
  exact put

end

/-- A merge entry is one of the entries, and so are those that it leaves, by induction on them. -/
theorem takeMerge_holds {entries rest : List (Node × Node)} {value : Node}
    (all : EntriesHold P entries) (taken : takeMerge d entries = some (value, rest))
    : P value ∧ EntriesHold P rest := by
  induction entries generalizing rest with
  | nil => cases taken
  | cons entry others ih =>
      obtain ⟨first, ofOthers⟩ := List.forall_mem_cons.mp all
      unfold takeMerge at taken
      split at taken
      · cases taken
        exact ⟨first.2, ofOthers⟩
      · obtain ⟨left, found, same⟩ := Option.map_eq_some_iff.mp taken
        cases same
        obtain ⟨ofValue, ofRest⟩ := ih ofOthers found
        exact ⟨ofValue, List.forall_mem_cons.mpr ⟨first, ofRest⟩⟩

include passes

section

variable {flatten : Node → Store → Except Failure Store}
  (flattened : ∀ (n : Node) (s : Store), P n → s.Holds P → Yields (Store.Holds P) (flatten n s))

include flattened

/-- The mappings in a list contribute entries with the property, by induction on the list. -/
theorem mergedItems_holds (start : Mark) {ns : List Node} (all : ∀ n ∈ ns, P n) {s : Store}
    (h : s.Holds P)
    : Yields
        (fun made : List (Node × Node) × Store => EntriesHold P made.1 ∧ made.2.Holds P)
        (mergedItems flatten start d ns s) := by
  induction ns generalizing s with
  | nil => exact .ok ⟨List.forall_mem_nil _, h⟩
  | cons n rest ih =>
      obtain ⟨first, others⟩ := List.forall_mem_cons.mp all
      have resolved := passes.resolve first
      unfold mergedItems
      generalize d.resolve n = n at resolved
      split
      · refine (flattened _ _ resolved h).bind fun s h => ?_
        refine (ih others h).bind fun (later, last) ⟨ofLater, ofLast⟩ => .ok ⟨?_, ofLast⟩
        exact List.forall_mem_append.mpr ⟨ofLater, h.entries passes resolved⟩
      · exact .error _

/-- What is merged contributes entries with the property. -/
theorem mergedEntries_holds (start : Mark) {value : Node} (ofValue : P value) {s : Store}
    (h : s.Holds P)
    : Yields
        (fun made : List (Node × Node) × Store => EntriesHold P made.1 ∧ made.2.Holds P)
        (mergedEntries flatten start d value s) := by
  cases value with
  | mapping =>
      exact (flattened _ _ ofValue h).bind fun s h => .ok ⟨h.entries passes ofValue, h⟩
  | sequence => exact mergedItems_holds passes flattened start (passes.items ofValue) h
  | scalar | aliasTo => exact .error _

end

/-- The entries of all mappings keep a property while one of them merges others, by induction on the
fuel.
-/
theorem flatten_holds (fuel : Nat) {merged : List (Node × Node)} (all : EntriesHold P merged)
    {m : Node} (ofMapping : P m) {s : Store} (h : s.Holds P)
    : Yields (Store.Holds P) (flatten d fuel merged m s) := by
  induction fuel generalizing merged m s with
  | zero => exact .ok (h.finish passes ofMapping all)
  | succ fuel ih =>
      have inner (n : Node) (s : Store) (ofNode : P n) (h : s.Holds P)
          : Yields (Store.Holds P) (flatten d fuel [] n s) :=
        ih (List.forall_mem_nil _) ofNode h
      unfold flatten
      split
      · exact .ok (h.finish passes ofMapping all)
      case h_2 value rest taken =>
        obtain ⟨ofValue, ofRest⟩ := takeMerge_holds (h.entries passes ofMapping) taken
        refine (mergedEntries_holds passes inner m.start (passes.resolve ofValue)
          (h.setEntries m ofRest)).bind fun (more, s) ⟨ofMore, h⟩ => ?_
        exact ih (List.forall_mem_append.mpr ⟨all, ofMore⟩) ofMapping h

-----------------------------------------------------------------------------------------
-- Filling
-----------------------------------------------------------------------------------------

variable {Q : Value → Prop}
  (leaves : ∀ (n : Node) (s : Store), P n → ¬ isCollectionTag n.tag → Yields Q (leaf d s n))

include leaves

omit passes in
theorem leafOnce_holds {n : Node} (ofNode : P n) (noCollection : ¬ isCollectionTag n.tag)
    {f : Filling} (h : f.Holds P Q)
    : Yields (fun made : Value × Filling => Q made.1 ∧ made.2.Holds P Q) (leafOnce d n f) := by
  have built := leaves n f.store ofNode noCollection
  unfold leafOnce
  split
  · split
    case h_1 v found => exact .ok ⟨h.built _ (mem_of_lookup found), h⟩
    case h_2 =>
      refine .map (built.mono fun v made => ⟨made, h.waiting, h.store, ?_⟩)
      exact List.forall_mem_cons.mpr ⟨made, h.built⟩
  · exact .map (built.mono fun v made => ⟨made, h⟩)

/-- A node becomes a part with the property, and waits to be filled if it is a collection. -/
theorem part_holds {n : Node} (ofNode : P n) {f : Filling} (h : f.Holds P Q)
    : Yields (fun made : Part × Filling => made.1.Holds Q ∧ made.2.Holds P Q) (part d n f) := by
  unfold part
  have resolved := passes.resolve ofNode
  generalize d.resolve n = n at resolved
  dsimp only
  refine .ite (fun _ => .ite (fun _ => .ok ⟨trivial, h⟩) fun _ => .ok ⟨trivial, ?_⟩) ?_
  · refine ⟨fun m member => ?_, h.store, h.built⟩
    rcases List.mem_append.mp member with member | member
    · exact h.waiting m member
    · exact List.mem_singleton.mp member ▸ resolved
  · exact fun noCollection => .map (leafOnce_holds leaves resolved noCollection h)

/-- Nodes become parts with the property, by induction on them. -/
theorem parts_holds {ns : List Node} (all : ∀ n ∈ ns, P n) {f : Filling} (h : f.Holds P Q)
    : Yields
        (fun made : List Part × Filling => (∀ p ∈ made.1, p.Holds Q) ∧ made.2.Holds P Q)
        (parts d ns f) := by
  induction ns generalizing f with
  | nil => exact .ok ⟨List.forall_mem_nil _, h⟩
  | cons n rest ih =>
      obtain ⟨first, others⟩ := List.forall_mem_cons.mp all
      refine (part_holds passes leaves first h).bind fun (p, f) ⟨ofPart, h⟩ => ?_
      refine (ih others h).bind fun (ps, f) ⟨ofParts, h⟩ => .ok ⟨?_, h⟩
      exact List.forall_mem_cons.mpr ⟨ofPart, ofParts⟩

omit passes leaves in
theorem setPart_holds {key : Key} {value : Part} (ofKey : Q key.value) (ofValue : value.Holds Q)
    {entries : List (Key × Part)} (all : KeyedHold Q entries)
    : KeyedHold Q (mapEntries.setPart key value entries) := by
  induction entries with
  | nil => exact List.forall_mem_singleton.mpr ⟨ofKey, ofValue⟩
  | cons entry rest ih =>
      obtain ⟨first, others⟩ := List.forall_mem_cons.mp all
      unfold mapEntries.setPart
      split
      · exact List.forall_mem_cons.mpr ⟨⟨first.1, ofValue⟩, others⟩
      · exact List.forall_mem_cons.mpr ⟨first, ih others⟩

/-- Entries become keys and parts with the property, by induction on them. -/
theorem mapEntries_holds (start : Mark) {done : List (Key × Part)} (ofDone : KeyedHold Q done)
    {entries : List (Node × Node)} (all : EntriesHold P entries) {f : Filling}
    (h : f.Holds P Q)
    : Yields
        (fun made : List (Key × Part) × Filling => KeyedHold Q made.1 ∧ made.2.Holds P Q)
        (mapEntries d start done entries f) := by
  induction entries generalizing done f with
  | nil => exact .ok ⟨ofDone, h⟩
  | cons entry rest ih =>
      obtain ⟨⟨ofKey, ofValue⟩, others⟩ := List.forall_mem_cons.mp all
      refine (part_holds passes leaves ofKey h).bind fun (key, f) ⟨ofKey, h⟩ => ?_
      cases key with
      | collection => exact .error _
      | leaf key =>
          refine (part_holds passes leaves ofValue h).bind fun (value, f) ⟨ofValue, h⟩ => ?_
          refine ih (setPart_holds ?_ ofValue ofDone) others h
          exact ofKey

/-- Pairs leave a filling with the property, by induction on the items. -/
theorem pairItems_holds (activity : Activity) (start : Mark) {ns : List Node}
    (all : ∀ n ∈ ns, P n) {f : Filling} (h : f.Holds P Q)
    : Yields (fun made : List (Part × Part) × Filling => made.2.Holds P Q)
        (pairItems d activity start ns f) := by
  induction ns generalizing f with
  | nil => exact .ok h
  | cons n rest ih =>
      obtain ⟨first, others⟩ := List.forall_mem_cons.mp all
      have resolved := passes.resolve first
      unfold pairItems
      generalize d.resolve n = n at resolved
      split
      · split
        case h_1 k v single =>
          have entries := single ▸ h.store.entries passes resolved
          obtain ⟨ofKey, ofValue⟩ := List.forall_mem_singleton.mp entries
          refine (part_holds passes leaves ofKey h).bind fun (key, f) ⟨_, h⟩ => ?_
          refine (part_holds passes leaves ofValue h).bind fun (value, f) ⟨_, h⟩ => ?_
          exact (ih others h).bind fun (more, f) h => .ok h
        case h_2 => exact .error _
      · exact .error _

/-- A collection that is filled leaves a filling with the property. -/
theorem fillOne_holds {n : Node} (ofNode : P n) {f : Filling} (h : f.Holds P Q)
    : Yields (fun made : Cell × Filling => made.2.Holds P Q) (fillOne d n f) := by
  unfold fillOne
  split
  · split
    · exact (parts_holds passes leaves (passes.items ofNode) h).bind fun made ⟨_, h⟩ => .ok h
    · exact .error _
  split
  · dsimp only
    split
    · exact (pairItems_holds passes leaves _ _ (passes.items ofNode) h).bind fun made h => .ok h
    · exact .error _
  · split
    · refine (flatten_holds passes _ (List.forall_mem_nil _) ofNode h.store).bind
        fun s ofStore => ?_
      have kept : Filling.Holds P Q { f with store := s } := ⟨h.waiting, ofStore, h.built⟩
      exact (mapEntries_holds passes leaves _ (List.forall_mem_nil _)
        (ofStore.entries passes ofNode) kept).bind fun made ⟨_, h⟩ => .ok h
    · exact .error _

end Value

end BlogSnapshot.Yaml
