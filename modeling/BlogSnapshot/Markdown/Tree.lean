import BlogSnapshot.Text.Blank
import BlogSnapshot.Text.Lowercase

/-! The tree that a text with markup is turned into: elements that hold a run of text and then
children, each followed by a run of text.
-/

namespace BlogSnapshot.Markdown

open Text

/-- A run of text. A fixed run is no longer searched for markup. -/
structure Run where
  chars : List Char
  fixed : Bool
  deriving DecidableEq, Repr

namespace Run

/-- The run without characters. -/
def empty : Run :=
  ⟨[], false⟩

/-- A run in which markup is still searched for. -/
def plain (chars : List Char) : Run :=
  ⟨chars, false⟩

/-- A run that is fixed. -/
def verbatim (chars : List Char) : Run :=
  ⟨chars, true⟩

def isEmpty (r : Run) : Bool :=
  r.chars.isEmpty

/-- Whether a run shows nothing. -/
def isBlank (r : Run) : Bool :=
  allBlank r.chars

/-- Whether markup is to be searched for in the run. -/
def isOpen (r : Run) : Bool :=
  !r.isEmpty && !r.fixed

/-- A run after another one. Only a run that stays alone remains fixed. -/
def join (a b : Run) : Run :=
  if b.isEmpty then a else if a.isEmpty then b else plain (a.chars ++ b.chars)

end Run

/-- An attribute of an element and its value. -/
abbrev Attribute := String × List Char

/-- An element: the run of text at its start, then its children and the run after each. -/
structure Element where
  tag : String
  attributes : List Attribute
  lead : Run
  children : List (Element × Run)
  deriving Repr

namespace Element

/-- The children of an element are smaller than the element. -/
theorem sizeOf_children_lt (e : Element) : sizeOf e.children < sizeOf e := by
  cases e with
  | mk tag attributes lead children =>
      change sizeOf children < _
      rw [Element.mk.sizeOf_spec]
      omega

/-- An element with a run of text. -/
def ofRun (tag : String) (lead : Run) : Element :=
  ⟨tag, [], lead, []⟩

/-- An element with nothing in it. -/
def bare (tag : String) : Element :=
  ofRun tag .empty

/-- An element whose text is still to be searched for markup. -/
def ofText (tag : String) (text : List Char) : Element :=
  ofRun tag (.plain text)

/-- The element with one more child. -/
def add (e child : Element) : Element :=
  { e with children := e.children ++ [(child, .empty)] }

/-- The last child. -/
def last? (e : Element) : Option Element :=
  e.children.getLast?.map (·.1)

/-- The element with another last child. -/
def setLast (e child : Element) : Element :=
  match e.children.getLast? with
  | some (_, tail) => { e with children := e.children.dropLast ++ [(child, tail)] }
  | none => e

/-- The run of text after the last child. -/
def lastTail (e : Element) : Run :=
  (e.children.getLast?.map (·.2)).getD .empty

/-- The element with another run of text after its last child. -/
def setLastTail (e : Element) (tail : Run) : Element :=
  match e.children.getLast? with
  | some (child, _) => { e with children := e.children.dropLast ++ [(child, tail)] }
  | none => e

/-- Whether the tag is one of these. -/
def isIn (e : Element) (tags : List String) : Bool :=
  tags.contains e.tag

/-- The value of an attribute. -/
def attribute? (e : Element) (name : String) : Option (List Char) :=
  e.attributes.lookup name

/-- The attributes with a value for a name, in the place of an earlier one. -/
def put (name : String) (value : List Char) : List Attribute → List Attribute
  | [] => [(name, value)]
  | a :: rest => if a.1 = name then (name, value) :: rest else a :: put name value rest

/-- The element with a value for an attribute. -/
def set (e : Element) (name : String) (value : List Char) : Element :=
  { e with attributes := put name value e.attributes }

/-- The element with one more class. -/
def addClass (e : Element) (word : List Char) : Element :=
  match e.attribute? "class" with
  | some words => if words.isEmpty then e.set "class" word
      else e.set "class" (words ++ ' ' :: word)
  | none => e.set "class" word

mutual

/-- All text in an element. -/
def text (e : Element) : List Char :=
  e.lead.chars ++ childrenText e.children
termination_by sizeOf e
decreasing_by exact e.sizeOf_children_lt

/-- All text in children and after them. -/
def childrenText : List (Element × Run) → List Char
  | [] => []
  | (child, tail) :: rest => child.text ++ tail.chars ++ childrenText rest
termination_by children => sizeOf children

end

end Element

/-- Elements of lists. -/
def listTags : List String :=
  ["ul", "ol"]

/-- Headings of the six ranks. -/
def headingTags : List String :=
  ["h1", "h2", "h3", "h4", "h5", "h6"]

/-- Elements that stand by themselves and not within a line. -/
def blockTags : List String :=
  [
    "address", "article", "aside", "blockquote", "details", "div", "dl", "fieldset",
    "figcaption", "figure", "footer", "form", "h1", "h2", "h3", "h4", "h5", "h6", "header",
    "hgroup", "hr", "main", "menu", "nav", "ol", "p", "pre", "section", "table", "ul", "canvas",
    "colgroup", "dd", "body", "dt", "group", "html", "iframe", "li", "legend", "math", "map",
    "noscript", "output", "object", "option", "progress", "script", "style", "summary", "tbody",
    "td", "textarea", "tfoot", "th", "thead", "tr", "video", "center"
  ]

/-- Whether a tag, in any case and with slashes behind it, names a block. -/
def isBlockTag (tag : List Char) : Bool :=
  blockTags.contains (String.ofList (dropRightWhile (· = '/') (lower tag)))

/-- Whether an element is a block. -/
def Element.isBlock (e : Element) : Bool :=
  isBlockTag e.tag.toList

end BlogSnapshot.Markdown
