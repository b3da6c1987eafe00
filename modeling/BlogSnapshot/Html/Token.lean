import BlogSnapshot.Html.Element

/-! The tokens of a page, and the ways to read text between them.
-/

namespace BlogSnapshot.Html

/-- A tag with its attributes, in the order of the page and without repetitions. -/
structure Tag where
  word : String
  attributes : List Attribute
  selfClosing : Bool
  deriving DecidableEq, Repr

/-- A token. The character of number zero is a token of its own, since its place decides what
becomes of it.
-/
inductive Token where
  | start (tag : Tag)
  | finish (word : String)
  | text (content : List Char)
  | zero
  | comment (content : List Char)
  | doctype
  deriving DecidableEq, Repr

/-- How the text after a start tag is read: as markup; as text up to the end tag of a word, with
or without references; as a script up to its end tag; or as text to the end of the page.
-/
inductive Reading where
  | markup
  | replaceable (word : String)
  | raw (word : String)
  | script (word : String)
  | plain
  deriving DecidableEq, Repr

end BlogSnapshot.Html
