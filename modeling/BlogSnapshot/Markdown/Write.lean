import BlogSnapshot.Markdown.Tree

/-! The text of a tree in HTML.
-/

namespace BlogSnapshot.Markdown

open Text

/-- Letters and digits of references; some letters that are not of ASCII count as the letters of
which they are forms.
-/
def isReferenceChar (c : Char) : Bool :=
  c.isAlphanum || c = '\u0130' || c = '\u0131' || c = '\u017f' || c = '\u212a'

/-- Whether a text goes on with letters or digits of a kind and a semicolon. -/
def endsReference (isMember : Char → Bool) (s : List Char) : Bool :=
  let word := s.takeWhile isMember
  !word.isEmpty && (s.drop word.length).head? = some ';'

/-- Whether the text after an ampersand makes it a reference to a character. -/
def startsReference : List Char → Bool
  | '#' :: 'x' :: s => endsReference isHexDigit s
  | '#' :: 'X' :: s => endsReference isHexDigit s
  | '#' :: s => endsReference Char.isDigit s
  | s => endsReference isReferenceChar s
where
  isHexDigit (c : Char) : Bool :=
    c.isDigit || ('a' ≤ c && c ≤ 'f') || ('A' ≤ c && c ≤ 'F')

/-- A text with the marks of HTML as references. An ampersand of a reference stays. -/
def escaped (quoted : Bool) : List Char → List Char
  | [] => []
  | c :: rest =>
      let here :=
        if c = '&' then if startsReference rest then [c] else "&amp;".toList
        else if c = '<' then "&lt;".toList
        else if c = '>' then "&gt;".toList
        else if c = '"' && quoted then "&quot;".toList
        else [c]
      here ++ escaped quoted rest

/-- A text that is code: every ampersand is written as a reference. -/
def escapedCode (s : List Char) : List Char :=
  s.flatMap fun c =>
    if c = '&' then "&amp;".toList
    else if c = '<' then "&lt;".toList
    else if c = '>' then "&gt;".toList
    else [c]

/-- An attribute inside a start tag. -/
def writeAttribute (a : Attribute) : List Char :=
  ' ' :: a.1.toList ++ "=\"".toList ++ escaped true a.2 ++ ['"']

/-- Elements without content and end tag. -/
def emptyTags : List String :=
  [
    "area", "base", "basefont", "br", "col", "frame", "hr", "img", "input", "isindex", "link",
    "meta", "param"
  ]

/-- Attributes in the order of their names. -/
def sortedAttributes (attributes : List Attribute) : List Attribute :=
  attributes.mergeSort fun a b => a.1 ≤ b.1

mutual

/-- The text of an element. -/
def Element.write (e : Element) : List Char :=
  let start := '<' :: e.tag.toList ++ (sortedAttributes e.attributes).flatMap writeAttribute
  if emptyTags.contains e.tag then start ++ " />".toList
  else
    start ++ ['>'] ++ escaped false e.lead.chars ++ writeChildren e.children
      ++ "</".toList ++ e.tag.toList ++ ['>']
termination_by sizeOf e
decreasing_by exact e.sizeOf_children_lt

/-- The text of children and of the runs after them. -/
def writeChildren : List (Element × Run) → List Char
  | [] => []
  | (child, tail) :: rest => child.write ++ escaped false tail.chars ++ writeChildren rest
termination_by children => sizeOf children

end

end BlogSnapshot.Markdown
