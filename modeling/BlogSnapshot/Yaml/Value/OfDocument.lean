import BlogSnapshot.Yaml.Scalar
import BlogSnapshot.Yaml.Value.Store

/-! The value of a document. Collections are filled level by level, so that of two faults the one
nearer to the root is reported; a collection that is referred to again is filled once.
-/

namespace BlogSnapshot.Yaml.Value

/-- A part of a collection: a finished value, or the collection at a place. -/
inductive Part
  | leaf (value : Value)
  | collection (isMap : Bool) (place : Node.Place)
  deriving Inhabited

/-- A collection with its parts. -/
inductive Cell
  | list (items : List Part)
  | map (entries : List (Value × Part))
  | set (items : List Value)
  | pairs (items : List (Part × Part))

/-- Filling in progress: the collections met and those that wait to be filled, what has become of
the nodes, and the values of mappings that were built as scalars.
-/
structure Filling where
  met : List Node.Place := []
  waiting : List Node := []
  store : Store := {}
  built : List (Node.Place × Value) := []

/-- The text of a scalar node. A mapping stands for the value of its default entry. The number of
nodes bounds how often this goes on; more steps than that have come back to a mapping and have no
end.
-/
def scalarText (d : Document) (s : Store) : Nat → Node → Except Failure String
  | _, .scalar _ word _ => .ok word
  | 0, _ => .error (.fault .endlessText)
  | fuel + 1, n@(.mapping _ _ start) =>
      match (s.entries n).find? fun (k, _) => s.tag (d.resolve k) = Tag.value with
      | some (_, v) => scalarText d s fuel (d.resolve v)
      | none => failAt none (.expectedNode .scalar .mapping) start
  | _ + 1, n => failAt none (.expectedNode .scalar n.kind) n.start

/-- Whether a tag makes a collection. -/
def isCollectionTag (tag : String) : Bool :=
  tag = Tag.seq || tag = Tag.map || tag = Tag.set || tag = Tag.omap || tag = Tag.pairs

/-- The value of a node with the tag of a scalar. A moment is read of the node itself, which must
not be a mapping.
-/
def leaf (d : Document) (s : Store) (n : Node) : Except Failure Value :=
  let tag := s.tag n
  let chars := (scalarText d s (d.count + 1) n).map String.toList
  let fault {α : Type} (r : Except ScalarFault α) : Except Failure α := r.mapError .fault
  if tag = Tag.str then chars.map fun s => .text (String.ofList s)
  else if tag = Tag.null then chars.map fun _ => .null
  else if tag = Tag.bool then do pure (.bool (← fault (Scalar.bool (← chars))))
  else if tag = Tag.int then do pure (.int (← fault (Scalar.int (← chars))))
  else if tag = Tag.float then do pure (.float (← fault (Scalar.float (← chars))))
  else if tag = Tag.timestamp then do
    let text ← chars
    match n with
    | .scalar .. => fault (Scalar.timestamp text)
    | _ => .error (.fault .entriesAsText)
  else if tag = Tag.binary then do
    match Scalar.binary (← chars) with
    | .ok bs => pure (.bytes bs)
    | .error problem => failAt none problem n.start
  else failAt none (.noConstructor tag) n.start

/-- The value of a node with the tag of a scalar; that of a mapping is built once, whatever becomes
of its entries later.
-/
def leafOnce (d : Document) (n : Node) (f : Filling) : Except Failure (Value × Filling) :=
  match n with
  | .mapping .. =>
      match f.built.lookup n.place with
      | some v => .ok (v, f)
      | none => (leaf d f.store n).map fun v => (v, { f with built := (n.place, v) :: f.built })
  | n => (leaf d f.store n).map fun v => (v, f)

/-- A part for a node; a collection that was not met before waits to be filled. -/
def part (d : Document) (n : Node) (f : Filling) : Except Failure (Part × Filling) :=
  let n := d.resolve n
  if isCollectionTag n.tag then
    let p := Part.collection (n.tag = Tag.map) n.place
    if f.met.contains n.place then .ok (p, f)
    else .ok (p, { f with met := n.place :: f.met, waiting := f.waiting ++ [n] })
  else (leafOnce d n f).map fun (v, f) => (.leaf v, f)

/-- Parts for nodes in order. -/
def parts (d : Document) : List Node → Filling → Except Failure (List Part × Filling)
  | [], f => .ok ([], f)
  | n :: ns, f => do
      let (p, f) ← part d n f
      let (ps, f) ← parts d ns f
      pure (p :: ps, f)

/-- A key of a mapping: its value, and where it was built unless it is spelled `.nan`. -/
structure Key where
  value : Value
  origin : Option Nat := none

/-- The key that a node with a value is. -/
def Key.of (d : Document) (s : Store) (n : Node) (value : Value) : Key :=
  let n := d.resolve n
  let isShared := match scalarText d s (d.count + 1) n with
    | .ok word => Scalar.spellsNoNumber word.toList
    | .error _ => false
  ⟨value, if isShared then none else some n.start.index⟩

/-- Whether two keys are the same. A double that is no number is the same as itself only; all of
them that are spelled `.nan` are one.
-/
def Key.same (a b : Key) : Bool :=
  a.value.sameKey b.value || (a.value.isNoNumber && b.value.isNoNumber && a.origin = b.origin)

/-- The entries of a mapping as keys and parts; a repeated key keeps its place and takes the new
value, and a collection is no key.
-/
def mapEntries (d : Document) (start : Mark) (done : List (Key × Part))
    : List (Node × Node) → Filling → Except Failure (List (Key × Part) × Filling)
  | [], f => .ok (done, f)
  | (k, v) :: rest, f => do
      let (key, f) ← part d k f
      match key with
      | .collection .. =>
          failAt (some (.mapping, start)) .unhashableKey (d.resolve k).start
      | .leaf key =>
          let key := Key.of d f.store k key
          let (value, f) ← part d v f
          mapEntries d start (setPart key value done) rest f
where
  setPart (key : Key) (value : Part) : List (Key × Part) → List (Key × Part)
    | [] => [(key, value)]
    | (k, v) :: rest =>
        if k.same key then (k, value) :: rest else (k, v) :: setPart key value rest

/-- The pairs of a list of mappings with one entry each. -/
def pairItems (d : Document) (activity : Activity) (start : Mark)
    : List Node → Filling → Except Failure (List (Part × Part) × Filling)
  | [], f => .ok ([], f)
  | n :: ns, f => do
      match d.resolve n with
      | m@(.mapping ..) =>
          match f.store.entries m with
          | [(k, v)] =>
              let (key, f) ← part d k f
              let (value, f) ← part d v f
              let (more, f) ← pairItems d activity start ns f
              pure ((key, value) :: more, f)
          | entries => failAt (some (activity, start)) (.expectedSingleItem entries.length) m.start
      | n => failAt (some (activity, start)) (.expectedItem n.kind) n.start

/-- A collection node filled with its parts. -/
def fillOne (d : Document) (n : Node) (f : Filling) : Except Failure (Cell × Filling) := do
  if n.tag = Tag.seq then
    match n with
    | .sequence _ items _ =>
        let (ps, f) ← parts d items f
        pure (.list ps, f)
    | n => failAt none (.expectedNode .sequence n.kind) n.start
  else if n.tag = Tag.omap || n.tag = Tag.pairs then
    let activity := if n.tag = Tag.omap then Activity.orderedMap else .pairs
    match n with
    | .sequence _ items start =>
        let (ps, f) ← pairItems d activity start items f
        pure (.pairs ps, f)
    | n => failAt (some (activity, n.start)) (.expectedSequence n.kind) n.start
  else
    match n with
    | .mapping _ _ start =>
        let store ← flatten d d.count [] n f.store
        let (entries, f) ← mapEntries d start [] (store.entries n) { f with store }
        let isSet := n.tag = Tag.set
        pure (if isSet then .set (entries.map (·.1.value))
          else .map (entries.map fun (k, p) => (k.value, p)), f)
    | n => failAt none (.expectedNode .mapping n.kind) n.start

/-- All collections that are reached, filled in the order in which they are met. -/
def fill (d : Document)
    : Nat → List (Node.Place × Cell) → Filling → Except Failure (List (Node.Place × Cell))
  | 0, cells, _ => .ok cells
  | fuel + 1, cells, f =>
      match f.waiting with
      | [] => .ok cells
      | n :: waiting => do
          let (cell, f) ← fillOne d n { f with waiting }
          fill d fuel ((n.place, cell) :: cells) f

/-- The value of a part. A collection that is already open ends in a cycle. -/
def assemble (cells : List (Node.Place × Cell)) (opened : List Node.Place) : Nat → Part → Value
  | 0, _ => .null
  | _ + 1, .leaf v => v
  | fuel + 1, .collection isMap place =>
      if opened.contains place then .cycle isMap
      else
        let inner := assemble cells (place :: opened) fuel
        match cells.lookup place with
        | none => .null
        | some (.list items) => .list (items.map inner)
        | some (.map entries) => .map (entries.map fun (k, p) => (k, inner p))
        | some (.set items) => .set items
        | some (.pairs items) => .list (items.map fun (k, v) => .pair (inner k) (inner v))

/-- The value of a root. The values of a root mapping are seen from outside of it, so that a
reference back to the root shows the root once.
-/
def assembleRoot (cells : List (Node.Place × Cell)) (root : Part) : Value :=
  let fuel := cells.length + 2
  match root with
  | .leaf v => v
  | .collection _ place =>
      match cells.lookup place with
      | some (.map entries) => .map (entries.map fun (k, p) => (k, assemble cells [] fuel p))
      | _ => assemble cells [] fuel root

/-- The value of a document, whose text length bounds the number of its collections. -/
def ofDocument (size : Nat) (d : Document) : Except Failure Value := do
  let (root, f) ← part d d.root {}
  let cells ← fill d (size + 2) [] f
  pure (assembleRoot cells root)

end BlogSnapshot.Yaml.Value
