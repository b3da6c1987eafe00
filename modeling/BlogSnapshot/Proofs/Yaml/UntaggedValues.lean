import BlogSnapshot.Proofs.Yaml.Untagged
import BlogSnapshot.Yaml.Load

/-! The values of untagged nodes. A scalar is built as text, as the absent value, or as the day or
moment that its text spells, and the collections that are filled with these values hold nothing
else, whatever they merge and refer to.
-/

namespace BlogSnapshot.Yaml

namespace Value

/-- A value that is built without tags: the absent value, a text, day or moment that is written as
a scalar, or a list or mapping of such values. A cycle stands for a list or mapping around it.
-/
inductive Untagged (written : String → Bool → Prop) : Value → Prop
  | null : Untagged written .null
  | text {s : String} {plain : Bool} (given : written s plain) : Untagged written (.text s)
  | stamp {s : String} {p : Calendar.NativeParts} {st : Calendar.Stamp} (given : written s true)
      (parts : Calendar.nativeParts s.toList = some p) (spelled : p.stamp = .ok st)
      : Untagged written (.ofStamp st)
  | list {items : List Value} (each : ∀ v ∈ items, Untagged written v)
      : Untagged written (.list items)
  | map {entries : List (Value × Value)} (keys : ∀ e ∈ entries, Untagged written e.1)
      (values : ∀ e ∈ entries, Untagged written e.2)
      : Untagged written (.map entries)
  | cycle (isMap : Bool) : Untagged written (.cycle isMap)

variable {written : String → Bool → Prop}

/-- A list or mapping of untagged parts. -/
def Cell.Untagged (written : String → Bool → Prop) : Cell → Prop
  | .list items => ∀ p ∈ items, p.Holds (Value.Untagged written)
  | .map entries => ∀ e ∈ entries, e.1.Untagged written ∧ e.2.Holds (Value.Untagged written)
  | .set _ | .pairs _ => False

/-- The nodes that a filling comes to are untagged, and so are the values that it keeps. -/
def Filling.Untagged (written : String → Bool → Prop) (f : Filling) : Prop :=
  f.Holds (Node.Untagged written) (Value.Untagged written)

-----------------------------------------------------------------------------------------
-- Scalars
-----------------------------------------------------------------------------------------

section

variable {d : Document} {store : Store}

theorem leaf_noConstructor {n : Node} {tag : String}
    (other : tag ∈ ["", Tag.merge, Tag.value, Tag.indicator]) (same : store.tag n = tag)
    : ∃ e, leaf d store n = .error e := by
  simp only [List.mem_cons, List.not_mem_nil, or_false] at other
  rcases other with rfl | rfl | rfl | rfl <;> exact ⟨_, by rw [leaf, same]; rfl⟩

theorem leaf_null {s : String} {start : Mark}
    : leaf d store (.scalar Tag.null s start) = .ok .null := by
  have other : Tag.null ≠ Tag.value := by decide
  have tag : store.tag (.scalar Tag.null s start) = Tag.null := Store.tag_of_ne other
  rw [leaf, tag]
  rfl

/-- A plain scalar is a native timestamp, the absent value, text, or has no value. -/
theorem ofPlain_cases (s : String)
    : Calendar.isNativeStamp s.toList = true ∨ Tag.ofPlain s = Tag.null ∨ Tag.ofPlain s = Tag.str
      ∨ Tag.ofPlain s ∈ [Tag.merge, Tag.value, Tag.indicator] := by
  unfold Tag.ofPlain
  dsimp only
  split_ifs <;> simp_all

theorem Store.tag_cases (store : Store) (n : Node)
    : store.tag n = Tag.str ∨ store.tag n = n.tag := by
  unfold Store.tag
  split
  · exact .inl rfl
  · exact .inr rfl

theorem leaf_scalar {s : String} {plain : Bool} (given : written s plain) (start : Mark)
    : Yields (Untagged written) (leaf d store (.scalar (Node.scalarTag s plain none) s start)) := by
  have asText (isText : store.tag (.scalar (Node.scalarTag s plain none) s start) = Tag.str)
      : Yields (Untagged written)
          (leaf d store (.scalar (Node.scalarTag s plain none) s start)) := by
    rw [leaf_of_tag_str isText]
    exact .ok (.text given)
  rcases store.tag_cases (.scalar (Node.scalarTag s plain none) s start)
    with isText | same
  · exact asText isText
  cases plain with
  | false => exact asText same
  | true =>
      rcases ofPlain_cases s with isStamp | null | text | other
      · intro v built
        obtain ⟨p, st, parts, spelled, rfl⟩ := exists_stamp_of_leaf_plain isStamp built
        exact .stamp given parts spelled
      · rw [show Node.scalarTag s true none = Tag.null from null, leaf_null]
        exact .ok .null
      · exact asText (same.trans text)
      · obtain ⟨e, failed⟩ := leaf_noConstructor (List.mem_cons_of_mem _ other) same
        exact failed ▸ .error e

/-- A node that is no collection is built as an untagged value. -/
theorem leaf_untagged (d : Document) (n : Node) (store : Store) (h : n.Untagged written)
    (noCollection : ¬ isCollectionTag n.tag)
    : Yields (Untagged written) (leaf d store n) := by
  cases h with
  | scalar given start => exact leaf_scalar given start
  | absent start =>
      rw [leaf_null]
      exact .ok .null
  | sequence | mapping => exact absurd rfl noCollection
  | aliasTo name =>
      have other : "" ≠ Tag.value := by decide
      have tag : store.tag (.aliasTo name) = "" := Store.tag_of_ne other
      obtain ⟨e, failed⟩ := leaf_noConstructor (List.mem_cons_self ..) tag
      exact failed ▸ .error e

end

-----------------------------------------------------------------------------------------
-- Collections
-----------------------------------------------------------------------------------------

variable {d : Document} (untagged : d.Untagged written)

include untagged

/-- An untagged collection is filled as a list or a mapping. -/
theorem fillOne_untagged {n : Node} (h : n.Untagged written) {f : Filling}
    (waits : f.Untagged written)
    : Yields (fun made : Cell × Filling => made.1.Untagged written ∧ made.2.Untagged written)
        (fillOne d n f) := by
  have passes := untagged.passesOn
  unfold fillOne
  cases h with
  | sequence each start =>
      refine .ite (fun _ => ?_) fun other => absurd rfl other
      exact (parts_holds passes (leaf_untagged d) each waits).bind fun _ made => .ok made
  | mapping keys values start =>
      have ofMapping := Node.Untagged.mapping keys values start
      have noSeq : ¬ Tag.map = Tag.seq := by decide
      have noPairs : ¬ (decide (Tag.map = Tag.omap) || decide (Tag.map = Tag.pairs)) = true := by
        decide
      refine .ite (fun isSeq => absurd isSeq noSeq) fun _ => ?_
      refine .ite (fun isPairs => absurd isPairs noPairs) fun _ => ?_
      refine (flatten_holds passes _ (List.forall_mem_nil _) ofMapping waits.store).bind
        fun store h => ?_
      have kept : Filling.Untagged written { f with store } := ⟨waits.waiting, h, waits.built⟩
      refine (mapEntries_holds passes (leaf_untagged d) start (List.forall_mem_nil _)
        (h.entries passes ofMapping) kept).bind fun (entries, f) ⟨all, waits⟩ => .ok ⟨?_, waits⟩
      intro e member
      obtain ⟨entry, isEntry, rfl⟩ := List.mem_map.mp member
      exact all entry isEntry
  | scalar | absent | aliasTo =>
      exact .ite (fun _ => .error _) fun _ => .ite (fun _ => .error _) fun _ => .error _

/-- All collections are filled as lists and mappings, by induction on the fuel. -/
theorem fill_untagged (fuel : Nat) {cells : List (Node.Place × Cell)}
    (filled : ∀ c ∈ cells, c.2.Untagged written) {f : Filling} (waits : f.Untagged written)
    : Yields (fun cells : List (Node.Place × Cell) => ∀ c ∈ cells, c.2.Untagged written)
        (fill d fuel cells f) := by
  induction fuel generalizing cells f with
  | zero => exact .ok filled
  | succ fuel ih =>
      unfold fill
      split
      · exact .ok filled
      case h_2 n waiting parts =>
        obtain ⟨first, others⟩ := List.forall_mem_cons.mp (parts ▸ waits.waiting)
        refine (fillOne_untagged untagged first (f := { f with waiting })
          ⟨others, waits.store, waits.built⟩).bind ?_
        exact fun _ made => ih (List.forall_mem_cons.mpr ⟨made.1, filled⟩) made.2

omit untagged

/-- A mapping is untagged when its values are made of untagged parts. -/
theorem map_untagged {entries : List (Value × Part)} (all : (Cell.map entries).Untagged written)
    {inner : Part → Value}
    (made : ∀ p : Part, p.Holds (Untagged written) → (inner p).Untagged written)
    : (Value.map (entries.map fun (k, p) => (k, inner p))).Untagged written := by
  refine .map (fun e member => ?_) fun e member => ?_
  · obtain ⟨entry, isEntry, rfl⟩ := List.mem_map.mp member
    exact (all entry isEntry).1
  · obtain ⟨entry, isEntry, rfl⟩ := List.mem_map.mp member
    exact made _ (all entry isEntry).2

/-- A part is untagged when it is assembled from untagged cells, by induction on the fuel. -/
theorem assemble_untagged {cells : List (Node.Place × Cell)}
    (filled : ∀ c ∈ cells, c.2.Untagged written) (opened : List Node.Place) (fuel : Nat) {p : Part}
    (h : p.Holds (Untagged written))
    : (assemble cells opened fuel p).Untagged written := by
  induction fuel generalizing opened p with
  | zero => exact .null
  | succ fuel ih =>
      cases p with
      | leaf v => exact h
      | collection isMap place =>
          unfold assemble
          split
          · exact .cycle isMap
          · dsimp only
            split
            · exact .null
            case h_2 items found =>
              have all := filled _ (mem_of_lookup found)
              refine .list fun v member => ?_
              obtain ⟨p, isItem, rfl⟩ := List.mem_map.mp member
              exact ih _ (all p isItem)
            case h_3 entries found =>
              exact map_untagged (filled _ (mem_of_lookup found)) fun p ofPart => ih _ ofPart
            case h_4 items found => exact (filled _ (mem_of_lookup found)).elim
            case h_5 items found => exact (filled _ (mem_of_lookup found)).elim

theorem assembleRoot_untagged {cells : List (Node.Place × Cell)}
    (filled : ∀ c ∈ cells, c.2.Untagged written) {root : Part}
    (h : root.Holds (Untagged written))
    : (assembleRoot cells root).Untagged written := by
  unfold assembleRoot
  dsimp only
  split
  · exact h
  · split
    case h_1 entries found =>
      exact map_untagged (filled _ (mem_of_lookup found)) fun p ofPart =>
        assemble_untagged filled _ _ ofPart
    case h_2 => exact assemble_untagged filled _ _ trivial

/-- The value of an untagged document is untagged. -/
theorem ofDocument_untagged (untagged : d.Untagged written) (size : Nat)
    : Yields (Untagged written) (ofDocument size d) := by
  have nothing : Filling.Untagged written {} := Filling.holds_empty _ _
  refine (part_holds untagged.passesOn (leaf_untagged d) untagged.root nothing).bind
    fun (root, f) ⟨ofRoot, waits⟩ => ?_
  exact (fill_untagged untagged _ (List.forall_mem_nil _) waits).bind fun cells filled =>
    .ok (assembleRoot_untagged filled ofRoot)

end Value

end BlogSnapshot.Yaml
