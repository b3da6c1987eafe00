import BlogSnapshot.Html.Element

/-! The tree of a page fragment, and its text in HTML.
-/

namespace BlogSnapshot.Html

/-- A node of a page: a text, a comment, or an element with its children. -/
inductive Node where
  | text (content : String)
  | comment (content : String)
  | element (name : ElementName) (attributes : List Attribute) (children : List Node)
  deriving Repr

/-- A character of a text, or of a value when `quoted`. The marks of HTML stand as references,
and so does the space that does not break; brackets need none in a value of their own, yet get
one.
-/
def escapedChar (quoted : Bool) (c : Char) : List Char :=
  if c = '&' then "&amp;".toList
  else if c = '<' then "&lt;".toList
  else if c = '>' then "&gt;".toList
  else if c = '\u00a0' then "&nbsp;".toList
  else if c = '"' && quoted then "&quot;".toList
  else [c]

/-- A text with its marks as references. -/
def escaped (quoted : Bool) (s : String) : String :=
  String.ofList (s.toList.flatMap (escapedChar quoted))

/-- An attribute inside a start tag. -/
def renderAttribute (a : Attribute) : String :=
  " " ++ a.1 ++ "=\"" ++ escaped true a.2 ++ "\""

/-- The start tag of an element. -/
def renderStart (name : ElementName) (attributes : List Attribute) : String :=
  "<" ++ name.word ++ String.join (attributes.map renderAttribute) ++ ">"

mutual

/-- The text of a node. An element without content has no end tag. -/
def Node.render : Node → String
  | .text content => escaped false content
  | .comment content => "<!--" ++ content ++ "-->"
  | .element name attributes children =>
      if name.isIn voidWords then renderStart name attributes
      else
        renderStart name attributes ++ renderForest children ++ "</" ++ name.word ++ ">"

/-- The text of nodes in a row. -/
def renderForest : List Node → String
  | [] => ""
  | node :: rest => node.render ++ renderForest rest

end

end BlogSnapshot.Html
