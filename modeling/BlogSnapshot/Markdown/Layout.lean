import BlogSnapshot.Markdown.Held

/-! The layout of a tree: every block starts and ends a line, and so does every break. At the very
end, marks of escaped characters are replaced by the characters.
-/

namespace BlogSnapshot.Markdown

open Text

/-- The run that ends a line. -/
def lineEnd : Run :=
  .plain ['\n']

/-- The run after an element, in the layout of its line. -/
def tailAfter (inBlocks : Bool) (e : Element) (tail : Run) : Run :=
  if e.tag = "br" then if tail.isBlank then lineEnd else .plain ('\n' :: tail.chars)
  else if inBlocks && e.isBlock && tail.isBlank then lineEnd
  else tail

/-- Code without empty lines at its end. -/
def trimmedCode (pre : Element) : Element :=
  match pre.children with
  | (code, tail) :: rest =>
      if pre.tag = "pre" && code.tag = "code" && code.children.isEmpty && !code.lead.isEmpty then
        let lead := Run.verbatim (trimRight code.lead.chars ++ ['\n'])
        { pre with children := ({ code with lead }, tail) :: rest }
      else pre
  | [] => pre

mutual

/-- The element in its layout. Blocks within anything but blocks stay as they are. -/
def Element.laidOut (inBlocks : Bool) (e : Element) : Element :=
  let inBlocks := inBlocks && e.isBlock && !e.isIn ["code", "pre"]
  let startsBlock := (e.children.head?).any (·.1.isBlock)
  let lead := if inBlocks && e.lead.isBlank && startsBlock then lineEnd else e.lead
  trimmedCode { e with lead, children := laidOutChildren inBlocks e.children }
termination_by sizeOf e
decreasing_by exact e.sizeOf_children_lt

/-- Children in their layout. -/
def laidOutChildren (inBlocks : Bool) : List (Element × Run) → List (Element × Run)
  | [] => []
  | (child, tail) :: rest =>
      (child.laidOut inBlocks, tailAfter inBlocks child tail) :: laidOutChildren inBlocks rest
termination_by children => sizeOf children

end

/-- A run with marks of characters replaced by the characters. -/
def Run.withChars (r : Run) : Run :=
  { r with chars := Markdown.withChars 0 r.chars }

mutual

/-- The element with marks of characters replaced by the characters, except in code. -/
def Element.withChars (e : Element) : Element :=
  {
    tag := e.tag
    attributes := e.attributes.map fun a => (a.1, Markdown.withChars 0 a.2)
    lead := if e.tag = "code" then e.lead else e.lead.withChars
    children := childrenWithChars e.children
  }
termination_by sizeOf e
decreasing_by exact e.sizeOf_children_lt

/-- Children with marks of characters replaced by the characters. -/
def childrenWithChars : List (Element × Run) → List (Element × Run)
  | [] => []
  | (child, tail) :: rest => (child.withChars, tail.withChars) :: childrenWithChars rest
termination_by children => sizeOf children

end

end BlogSnapshot.Markdown
