import BlogSnapshot.Proofs.Yaml.Defaults
import BlogSnapshot.Proofs.Yaml.Nodes

/-! The value of a document fails with an error of its text, or with a scalar that its tag calls a
truth value, a number or a moment and that is none. Together with the faults of the tokens these
are all faults of a text.
-/

namespace BlogSnapshot.Yaml

namespace Value

variable {d : Document}

/-- What a filling comes to are nodes of the document. -/
def Filling.IsOf (d : Document) (f : Filling) : Prop :=
  f.Holds d.Includes fun _ => True

/-- No property is asked of the values of scalars. -/
theorem leaf_any (d : Document) (n : Node) (s : Store) (_ : d.Includes n)
    (_ : ¬ isCollectionTag n.tag)
    : Yields (fun _ => True) (leaf d s n) :=
  fun _ _ => trivial

theorem failAt_known {α : Type} (activity : Option (Activity × Mark)) (problem : Problem)
    (mark : Mark)
    : FailsOnly Known (failAt activity problem mark : Except Failure α) :=
  .error (.text _)

-----------------------------------------------------------------------------------------
-- Scalars
-----------------------------------------------------------------------------------------

section

variable {s : Store} (ofStore : s.Holds d.Includes) {n : Node} (ofNode : d.Includes n)

include ofStore ofNode

/-- The text of a node is refused with an error of the text, or has no end. -/
theorem scalarText_known : FailsOnly Known (scalarText d s (d.count + 1) n) := by
  intro e refused
  cases e with
  | text error => exact .text error
  | fault fault =>
      obtain rfl := fault_eq_endlessText refused
      exact .fault (.endless (endless_of_scalarText ofStore ofNode refused))

omit ofStore ofNode in
/-- What has a text and is no scalar is a mapping. -/
theorem isMapping_of_scalarText {fuel : Nat} {text : String}
    (read : scalarText d s (fuel + 1) n = .ok text)
    (noScalar : ∀ tag text start, n ≠ .scalar tag text start)
    : n.kind = .mapping := by
  cases n with
  | scalar tag text start => exact absurd rfl (noScalar tag text start)
  | mapping => rfl
  | sequence | aliasTo => cases read

/-- A scalar fails as the reading of its text that its tag asks for. -/
theorem leaf_known : FailsOnly Known (leaf d s n) := by
  have chars : FailsOnly Known ((scalarText d s (d.count + 1) n).map String.toList) :=
    (scalarText_known ofStore ofNode).map _
  have read {α : Type} {scalar : List Char → Except ScalarFault α}
      (spelled : ∀ text fault, scalar text = .error fault → Spelled fault) (text : List Char)
      : FailsOnly Known ((scalar text).mapError Failure.fault) :=
    .mapError fun fault refused => .fault (spelled text fault refused)
  unfold leaf
  refine .ite (chars.map _) (.ite (chars.map _) ?_)
  refine .ite ?_ (.ite ?_ (.ite ?_ (.ite ?_ (.ite ?_ ?_))))
  · exact .bind chars fun s _ => .bind (read (fun _ _ => .bool) s) fun _ _ => .ok _ _
  · exact .bind chars fun s _ => .bind (read (fun _ _ => .int) s) fun _ _ => .ok _ _
  · exact .bind chars fun s _ => .bind (read (fun _ _ => .float) s) fun _ _ => .ok _ _
  · refine .bind chars fun text given => ?_
    obtain ⟨word, given, _⟩ := (map_eq_ok_iff _ _ _).mp given
    split
    · exact read (fun _ _ => .timestamp) text
    case h_2 noScalar =>
      exact .error (.fault (.stampOfEntries (isMapping_of_scalarText given noScalar) given))
  · refine .bind chars fun s _ => ?_
    split
    · exact .ok _ _
    · exact failAt_known _ _ _
  · exact failAt_known _ _ _

end

-----------------------------------------------------------------------------------------
-- Merging
-----------------------------------------------------------------------------------------

section

variable {flatten : Node → Store → Except Failure Store}
  (known : ∀ n s, FailsOnly Known (flatten n s))

include known

theorem mergedItems_known (start : Mark) (ns : List Node) (s : Store)
    : FailsOnly Known (mergedItems flatten start d ns s) := by
  induction ns generalizing s with
  | nil => exact .ok _ _
  | cons n rest ih =>
      unfold mergedItems
      split
      · exact .bind (known _ s) fun _ _ => .bind (ih _) fun _ _ => .ok _ _
      · exact failAt_known _ _ _

theorem mergedEntries_known (start : Mark) (value : Node) (s : Store)
    : FailsOnly Known (mergedEntries flatten start d value s) := by
  unfold mergedEntries
  split
  · exact .bind (known _ s) fun _ _ => .ok _ _
  · exact mergedItems_known known _ _ _
  · exact failAt_known _ _ _

end

/-- Merging is refused with errors of the text, by induction on the fuel. -/
theorem flatten_known (fuel : Nat) (merged : List (Node × Node)) (m : Node) (s : Store)
    : FailsOnly Known (flatten d fuel merged m s) := by
  induction fuel generalizing merged m s with
  | zero => exact .ok _ _
  | succ fuel ih =>
      unfold flatten
      split
      · exact .ok _ _
      · exact .bind (mergedEntries_known (ih []) _ _ _) fun _ _ => ih _ _ _

-----------------------------------------------------------------------------------------
-- Filling
-----------------------------------------------------------------------------------------

theorem leafOnce_known {n : Node} (ofNode : d.Includes n) {f : Filling} (h : f.IsOf d)
    : FailsOnly Known (leafOnce d n f) := by
  have known := leaf_known h.store ofNode
  unfold leafOnce
  split
  · split
    · exact .ok _ _
    · exact known.map _
  · exact known.map _

theorem part_known {n : Node} (ofNode : d.Includes n) {f : Filling} (h : f.IsOf d)
    : FailsOnly Known (part d n f) := by
  unfold part
  refine .ite (.ite (.ok _ _) (.ok _ _)) (.map (leafOnce_known ?_ h) _)
  exact d.includes_passesOn.resolve ofNode

/-- The filling that a part leaves is of the document. -/
theorem isOf_of_part {n : Node} (ofNode : d.Includes n) {f : Filling} (h : f.IsOf d)
    {made : Part × Filling} (ran : part d n f = .ok made)
    : made.2.IsOf d :=
  (part_holds d.includes_passesOn (leaf_any d) ofNode h made ran).2

/-- Parts fail as one of them does, by induction on the nodes. -/
theorem parts_known {ns : List Node} (all : ∀ n ∈ ns, d.Includes n) {f : Filling} (h : f.IsOf d)
    : FailsOnly Known (parts d ns f) := by
  induction ns generalizing f with
  | nil => exact .ok _ _
  | cons n rest ih =>
      obtain ⟨first, others⟩ := List.forall_mem_cons.mp all
      refine .bind (part_known first h) fun _ ran => ?_
      exact .bind (ih others (isOf_of_part first h ran)) fun _ _ => .ok _ _

/-- Entries fail as a key or a value of theirs does, by induction on them. -/
theorem mapEntries_known (start : Mark) (done : List (Key × Part)) {entries : List (Node × Node)}
    (all : Node.EntriesHold d.Includes entries) {f : Filling} (h : f.IsOf d)
    : FailsOnly Known (mapEntries d start done entries f) := by
  induction entries generalizing done f with
  | nil => exact .ok _ _
  | cons entry rest ih =>
      obtain ⟨⟨ofKey, ofValue⟩, others⟩ := List.forall_mem_cons.mp all
      refine .bind (part_known ofKey h) fun (key, f) ran => ?_
      have h := isOf_of_part ofKey h ran
      cases key with
      | collection => exact failAt_known _ _ _
      | leaf key =>
          refine .bind (part_known ofValue h) fun _ ran => ?_
          exact ih _ others (isOf_of_part ofValue h ran)

/-- Pairs fail as a key or a value of theirs does, by induction on the items. -/
theorem pairItems_known (activity : Activity) (start : Mark) {ns : List Node}
    (all : ∀ n ∈ ns, d.Includes n) {f : Filling} (h : f.IsOf d)
    : FailsOnly Known (pairItems d activity start ns f) := by
  induction ns generalizing f with
  | nil => exact .ok _ _
  | cons n rest ih =>
      obtain ⟨first, others⟩ := List.forall_mem_cons.mp all
      have resolved := d.includes_passesOn.resolve first
      unfold pairItems
      generalize d.resolve n = n at resolved
      split
      · split
        case h_1 single =>
          have entries := single ▸ h.store.entries d.includes_passesOn resolved
          obtain ⟨ofKey, ofValue⟩ := List.forall_mem_singleton.mp entries
          refine .bind (part_known ofKey h) fun _ ran => ?_
          have h := isOf_of_part ofKey h ran
          refine .bind (part_known ofValue h) fun _ ran => ?_
          exact .bind (ih others (isOf_of_part ofValue h ran)) fun _ _ => .ok _ _
        case h_2 => exact failAt_known _ _ _
      · exact failAt_known _ _ _

theorem fillOne_known {n : Node} (ofNode : d.Includes n) {f : Filling} (h : f.IsOf d)
    : FailsOnly Known (fillOne d n f) := by
  have passes := d.includes_passesOn
  unfold fillOne
  split
  · split
    · exact .bind (parts_known (passes.items ofNode) h) fun _ _ => .ok _ _
    · exact failAt_known _ _ _
  split
  · dsimp only
    split
    · exact .bind (pairItems_known _ _ (passes.items ofNode) h) fun _ _ => .ok _ _
    · exact failAt_known _ _ _
  · split
    · refine .bind (flatten_known _ _ _ _) fun s ran => ?_
      have ofStore := flatten_holds passes _ (List.forall_mem_nil _) ofNode h.store s ran
      have kept : Filling.IsOf d { f with store := s } := ⟨h.waiting, ofStore, h.built⟩
      exact .bind (mapEntries_known _ _ (ofStore.entries passes ofNode) kept) fun _ _ => .ok _ _
    · exact failAt_known _ _ _

/-- Collections fail as one of them does, by induction on the fuel. -/
theorem fill_known (fuel : Nat) (cells : List (Node.Place × Cell)) {f : Filling} (h : f.IsOf d)
    : FailsOnly Known (fill d fuel cells f) := by
  induction fuel generalizing cells f with
  | zero => exact .ok _ _
  | succ fuel ih =>
      unfold fill
      split
      · exact .ok _ _
      case h_2 n waiting parts =>
        obtain ⟨first, others⟩ := List.forall_mem_cons.mp (parts ▸ h.waiting)
        have rest : Filling.IsOf d { f with waiting } := ⟨others, h.store, h.built⟩
        refine .bind (fillOne_known first rest) fun made ran => ih _ ?_
        exact fillOne_holds d.includes_passesOn (leaf_any d) first rest made ran

theorem ofDocument_known (d : Document) (size : Nat) : FailsOnly Known (ofDocument size d) := by
  have nothing : Filling.IsOf d {} := Filling.holds_empty _ _
  refine .bind (part_known d.includes_root nothing) fun _ ran => ?_
  exact .bind (fill_known _ _ (isOf_of_part d.includes_root nothing ran)) fun _ _ => .ok _ _

end Value

/-- Every failure of a text is an error of the text or a fault that it spells. -/
theorem load_known (text : List Char) : FailsOnly Known (load text) := by
  refine .bind (Node.ofText_known text) fun document _ => ?_
  cases document with
  | none => exact .ok _ _
  | some d => exact Value.ofDocument_known d _

end BlogSnapshot.Yaml
