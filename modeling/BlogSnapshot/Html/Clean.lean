import BlogSnapshot.Html.AllowList
import BlogSnapshot.Html.Node
import BlogSnapshot.Url.Target

/-! Cleaning a page: what the allow list does not name is taken out, and its content stays where
it does no harm.
-/

namespace BlogSnapshot.Html

/-- Whether a link may stay: it is relative, or its scheme is allowed. -/
def isAllowedLink (link : String) : Bool :=
  match Url.Target.of link.toList with
  | .relative => true
  | .absolute scheme => allowedSchemes.contains scheme
  | .malformed => false

/-- Whether an attribute may stay at an element of a word. -/
def isAllowedAttribute (word : String) (a : Attribute) : Bool :=
  (commonAttributes.contains a.1 || (ownAttributes word).contains a.1)
    && (!linkAttributes.contains a.1 || isAllowedLink a.2)

/-- What keeps the page that a link leads to from knowing where the visitor comes from. -/
def linkRelation : Attribute :=
  ("rel", "noopener noreferrer")

/-- The attributes that an element of a word keeps; a link gets its relation besides. -/
def keptAttributes (word : String) (attributes : List Attribute) : List Attribute :=
  attributes.filter (isAllowedAttribute word) ++ if word = "a" then [linkRelation] else []

/-- Whether an element goes together with its content: it is a script or a style, or its name
belongs to another vocabulary than the one that it stands in.
-/
def isDropped (name : ElementName) : Bool :=
  droppedWords.contains name.word
    || match name.space with
      | .html => drawingWords.contains name.word || formulaWords.contains name.word
      | .svg => name.word ≠ "svg"
      | .math => name.word ≠ "math"

mutual

/-- What is left of a node. -/
def Node.clean : Node → List Node
  | .text content => [.text content]
  | .comment _ => []
  | .element name attributes children =>
      if isDropped name then []
      else if allowedWords.contains name.word then
        [.element name (keptAttributes name.word attributes) (cleanForest children)]
      else cleanForest children

/-- What is left of nodes in a row. -/
def cleanForest : List Node → List Node
  | [] => []
  | node :: rest => node.clean ++ cleanForest rest

end

end BlogSnapshot.Html
