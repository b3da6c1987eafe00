import BlogSnapshot.Yaml.Error

/-! Nodes of a document. A node under an anchor may be referred to from any later place, its own
inside included.
-/

namespace BlogSnapshot.Yaml

/-- A node with its tag and the position it starts at. -/
inductive Node
  | scalar (tag : String) (text : String) (start : Mark)
  | sequence (tag : String) (items : List Node) (start : Mark)
  | mapping (tag : String) (entries : List (Node × Node)) (start : Mark)
  | aliasTo (anchor : String)
  deriving Repr, Inhabited

/-- A document: its root and the nodes under anchors. -/
structure Document where
  root : Node
  anchors : List (String × Node)
  deriving Repr

namespace Node

def tag : Node → String
  | scalar tag .. => tag
  | sequence tag .. => tag
  | mapping tag .. => tag
  | aliasTo _ => ""

def start : Node → Mark
  | scalar _ _ start => start
  | sequence _ _ start => start
  | mapping _ _ start => start
  | aliasTo _ => {}

def kind : Node → NodeKind
  | sequence .. => .sequence
  | mapping .. => .mapping
  | _ => .scalar

/-- Where a node stands in its document, which tells it from every other one. A mapping without
braces starts where its first key does.
-/
structure Place where
  position : Nat
  startsWithKey : Bool := false
  deriving DecidableEq, Repr

def place : Node → Place
  | mapping _ ((aliasTo _, _) :: _) start => { position := start.index }
  | mapping _ ((key, _) :: _) start => ⟨start.index, key.start.index = start.index⟩
  | n => { position := n.start.index }

mutual

/-- The number of nodes in a node, itself included. -/
def count : Node → Nat
  | sequence _ items _ => countItems items + 1
  | mapping _ entries _ => countEntries entries + 1
  | _ => 1

def countItems : List Node → Nat
  | [] => 0
  | n :: ns => n.count + countItems ns

def countEntries : List (Node × Node) → Nat
  | [] => 0
  | (k, v) :: rest => k.count + v.count + countEntries rest

end

end Node

/-- The node that a node stands for: itself, or the node under the anchor it refers to. -/
def Document.resolve (d : Document) : Node → Node
  | .aliasTo name => (d.anchors.lookup name).getD (.aliasTo name)
  | n => n

/-- The number of nodes in a document, those under its anchors counted once more. -/
def Document.count (d : Document) : Nat :=
  d.root.count + Node.countItems (d.anchors.map (·.2))

end BlogSnapshot.Yaml
