import BlogSnapshot.Html.Node

/-! A tree of nodes under construction. Nodes are known by number, so that a node keeps its
identity while it is moved from one parent to another.
-/

namespace BlogSnapshot.Html

/-- What a node of a draft is. The children of a template are kept in a part of their own. -/
inductive Part where
  | text (content : String)
  | comment (content : String)
  | element (name : ElementName) (attributes : List Attribute)
  | template (inner : Nat)
  deriving Repr

/-- A node of a draft: what it is, its parent and its children in order. -/
structure DraftNode where
  part : Part
  parent : Option Nat
  children : List Nat
  deriving Repr

/-- A draft: its nodes by number. -/
structure Draft where
  nodes : Array DraftNode
  deriving Repr

namespace Draft

/-- The name of an element; a text has none. -/
def name? (d : Draft) (id : Nat) : Option ElementName :=
  match d.nodes[id]? with
  | some { part := .element name _, .. } => some name
  | some { part := .template _, .. } => some (.html "template")
  | _ => none

/-- Whether a node is an element of HTML with one of these words. -/
def isIn (d : Draft) (id : Nat) (words : List String) : Bool :=
  (d.name? id).any (·.isIn words)

/-- Whether a node is an element of HTML with this word. -/
def is (d : Draft) (id : Nat) (word : String) : Bool :=
  (d.name? id).any (·.is word)

def parent? (d : Draft) (id : Nat) : Option Nat :=
  (d.nodes[id]?).bind (·.parent)

def children (d : Draft) (id : Nat) : List Nat :=
  ((d.nodes[id]?).map (·.children)).getD []

/-- The part that takes the children of an element. -/
def holder (d : Draft) (id : Nat) : Nat :=
  match d.nodes[id]? with
  | some { part := .template inner, .. } => inner
  | _ => id

/-- A new node without parent, and its number. -/
def add (d : Draft) (part : Part) : Nat × Draft :=
  (d.nodes.size, ⟨d.nodes.push { part, parent := none, children := [] }⟩)

/-- A new element without parent. A template gets a second part for its children. -/
def addElement (d : Draft) (name : ElementName) (attributes : List Attribute)
    : Nat × Draft :=
  if name.is "template" then
    let (inner, d) := d.add (.element name attributes)
    d.add (.template inner)
  else d.add (.element name attributes)

def setChildren (d : Draft) (id : Nat) (children : List Nat) : Draft :=
  ⟨d.nodes.modify id fun node => { node with children }⟩

def setParent (d : Draft) (id : Nat) (parent : Option Nat) : Draft :=
  ⟨d.nodes.modify id fun node => { node with parent }⟩

/-- The draft with a node taken from its parent. -/
def detach (d : Draft) (id : Nat) : Draft :=
  match d.parent? id with
  | some parent => (d.setChildren parent ((d.children parent).erase id)).setParent id none
  | none => d

/-- The draft with a node as the last child of another. -/
def append (d : Draft) (parent id : Nat) : Draft :=
  (d.setChildren parent (d.children parent ++ [id])).setParent id (some parent)

/-- The list with a new member before an old one. -/
def insertedBefore (sibling id : Nat) : List Nat → List Nat
  | [] => [id]
  | other :: rest =>
      if other = sibling then id :: other :: rest
      else other :: insertedBefore sibling id rest

/-- The draft with a node just before another one, under the same parent. -/
def insertBefore (d : Draft) (parent sibling id : Nat) : Draft :=
  (d.setChildren parent (insertedBefore sibling id (d.children parent))).setParent id
    (some parent)

/-- The draft with all children of one node moved to the end of another. -/
def moveChildren (d : Draft) (source target : Nat) : Draft :=
  let moved := d.children source
  let d := moved.foldl (fun d id => d.setParent id (some target)) d
  (d.setChildren source []).setChildren target (d.children target ++ moved)

/-- A place for a new node: at the end of a node, or before a sibling under a parent. -/
inductive Place where
  | last (parent : Nat)
  | before (parent sibling : Nat)
  deriving DecidableEq, Repr

/-- The draft with a node put into a place. -/
def put (d : Draft) (place : Place) (id : Nat) : Draft :=
  match place with
  | .last parent => d.append parent id
  | .before parent sibling => d.insertBefore parent sibling id

/-- The node that a place comes after. -/
def previous? (d : Draft) : Place → Option Nat
  | .last parent => (d.children parent).getLast?
  | .before parent sibling =>
      ((d.children parent).takeWhile (· ≠ sibling)).getLast?

/-- The text of a node that is one. -/
def text? (d : Draft) (id : Nat) : Option String :=
  match d.nodes[id]? with
  | some { part := .text content, .. } => some content
  | _ => none

/-- The draft with a text in a place; it joins a text that it comes after. -/
def putText (d : Draft) (place : Place) (content : String) : Draft :=
  match (d.previous? place).bind fun id => (d.text? id).map ((id, ·)) with
  | some (id, before) =>
      ⟨d.nodes.modify id fun node => { node with part := .text (before ++ content) }⟩
  | none =>
      let (id, d) := d.add (.text content)
      d.put place id

/-- The tree under a node, as far down as `depth`. -/
def treeFrom (d : Draft) : Nat → Nat → Option Node
  | 0, _ => none
  | depth + 1, id =>
      match d.nodes[id]? with
      | some { part := .text content, .. } => some (.text content)
      | some { part := .comment content, .. } => some (.comment content)
      | some { part := .element name attributes, children, .. } =>
          some (.element name attributes (children.filterMap (treeFrom d depth)))
      | some { part := .template _, .. } => some (.element (.html "template") [] [])
      | none => none

/-- The trees of the children of a node. No path through a draft is longer than its size. -/
def forest (d : Draft) (id : Nat) : List Node :=
  (d.children id).filterMap (treeFrom d (d.nodes.size + 1))

end Draft

end BlogSnapshot.Html
