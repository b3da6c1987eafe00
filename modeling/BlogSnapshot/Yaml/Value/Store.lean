import BlogSnapshot.Yaml.Fault
import BlogSnapshot.Yaml.Node
import BlogSnapshot.Yaml.Schema

/-! What has become of the nodes of a document while its values are built. A mapping that merges
others takes over their entries, and the key of a default entry becomes text. As a node may be
referred to from several places, each of them sees such a change from then on.
-/

namespace BlogSnapshot.Yaml.Value

/-- Fails with a problem at a node. -/
def failAt {α : Type} (activity : Option (Activity × Mark)) (problem : Problem) (mark : Mark)
    : Except Failure α :=
  .error (.text (.at (activity.map fun (a, m) => (a, some m)) problem mark))

/-- The changes to the nodes of a document: the entries of mappings that had merge entries, by
place, and where the keys of default entries start that have become text.
-/
structure Store where
  changed : List (Node.Place × List (Node × Node)) := []
  texts : List Nat := []

namespace Store

/-- The entries that a mapping has now. -/
def entries (s : Store) : Node → List (Node × Node)
  | n@(.mapping _ own _) => (s.changed.lookup n.place).getD own
  | _ => []

/-- The tag that a node has now. -/
def tag (s : Store) (n : Node) : String :=
  if n.tag = Tag.value && s.texts.contains n.start.index then Tag.str else n.tag

def setEntries (s : Store) (n : Node) (entries : List (Node × Node)) : Store :=
  { s with changed := (n.place, entries) :: s.changed }

/-- The keys of the default entries of a mapping become text. -/
def keysAsText (d : Document) (n : Node) (s : Store) : Store :=
  let keys := (s.entries n).map fun e => d.resolve e.1
  { s with texts := (keys.filter (·.tag = Tag.value)).map (·.start.index) ++ s.texts }

/-- A mapping without merge entries gets the entries that it merges, which stand before its own. -/
def finish (d : Document) (n : Node) (merged : List (Node × Node)) (s : Store) : Store :=
  (if merged.isEmpty then s else s.setEntries n (merged ++ s.entries n)).keysAsText d n

end Store

/-- The value of the first merge entry, and the entries without it. -/
def takeMerge (d : Document) : List (Node × Node) → Option (Node × List (Node × Node))
  | [] => none
  | (k, v) :: rest =>
      if (d.resolve k).tag = Tag.merge then some (v, rest)
      else (takeMerge d rest).map fun (value, others) => (value, (k, v) :: others)

/-- The entries of the mappings in a list, those of a later one first. -/
def mergedItems (flatten : Node → Store → Except Failure Store) (start : Mark) (d : Document)
    : List Node → Store → Except Failure (List (Node × Node) × Store)
  | [], s => .ok ([], s)
  | n :: ns, s => do
      match d.resolve n with
      | m@(.mapping ..) => do
          let s ← flatten m s
          let (later, t) ← mergedItems flatten start d ns s
          pure (later ++ s.entries m, t)
      | n => failAt (some (.mapping, start)) (.badMergeItem n.kind) n.start

/-- The entries that the value of a merge entry contributes: those of a mapping, or of the mappings
in a list.
-/
def mergedEntries (flatten : Node → Store → Except Failure Store) (start : Mark) (d : Document)
    (value : Node) (s : Store)
    : Except Failure (List (Node × Node) × Store) := do
  match value with
  | .mapping .. =>
      let s ← flatten value s
      pure (s.entries value, s)
  | .sequence _ items _ => mergedItems flatten start d items s
  | n => failAt (some (.mapping, start)) (.badMerge n.kind) n.start

/-- Merge entries are taken out of a mapping one after another, and the mappings that they refer to
are flattened before their entries are collected; so a mapping that merges itself, at any remove,
has one merge entry less each time it is come back to. The entries that were collected are put in
when no merge entry is left. The number of nodes bounds that of merge entries.
-/
def flatten (d : Document) : Nat → List (Node × Node) → Node → Store → Except Failure Store
  | 0, merged, m, s => .ok (s.finish d m merged)
  | fuel + 1, merged, m, s =>
      match takeMerge d (s.entries m) with
      | none => .ok (s.finish d m merged)
      | some (value, rest) => do
          let (more, s) ← mergedEntries (flatten d fuel []) m.start d (d.resolve value)
            (s.setEntries m rest)
          flatten d fuel (merged ++ more) m s

end BlogSnapshot.Yaml.Value
