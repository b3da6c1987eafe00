import BlogSnapshot.Markdown.AttributeList
import BlogSnapshot.Markdown.Block.Line
import BlogSnapshot.Markdown.Tree

/-! Lists of attributes at the end of a block or after an element in a line. They are taken out of
the text and given to the element.
-/

namespace BlogSnapshot.Markdown

open Text

/-! ### Names -/

/-- Ranges of characters of the name of an attribute. -/
def attributeNameRanges : List (Nat × Nat) :=
  [
    (0x2d, 0x2e), (0x30, 0x3a), (0x41, 0x5a), (0x5f, 0x5f), (0x61, 0x7a), (0xb7, 0xb7),
    (0xc0, 0xd6), (0xd8, 0xf6), (0xf8, 0x37d), (0x37f, 0x1fff), (0x200c, 0x200d),
    (0x203f, 0x2040), (0x2070, 0x218f), (0x2c00, 0x2fef), (0x3001, 0xd7ff), (0xf900, 0xfdcf),
    (0xfdf0, 0xfffd)
  ]

/-- Whether the name of an attribute may have a character. -/
def isAttributeNameChar (c : Char) : Bool :=
  inRanges attributeNameRanges c

/-- The name of an attribute: a low line for every run of other characters. -/
def attributeName : List Char → List Char
  | [] => []
  | c :: rest =>
      if isAttributeNameChar c then c :: attributeName rest
      else if rest.head?.any (!isAttributeNameChar ·) then attributeName rest
      else '_' :: attributeName rest

/-- The element with a setting. -/
def Element.assign (e : Element) : Setting → Element
  | .className word => e.addClass word
  | .value name value => e.set (String.ofList (attributeName name)) value

/-! ### Lists in a text -/

/-- Reads a list in braces that reaches as far as it can in its line: what is in it, and the text
after it. A colon before the list does not count, unless it is all there is.
-/
def readList? (s : List Char) : Option (List Char × List Char) := do
  let line := s.takeWhile (· ≠ '\n')
  let inner ← afterLead? ['\x7b'] line
  let read? (inner : List Char) : Option (List Char × List Char) := do
    let inner := inner.dropWhile (· = ' ')
    let list := ((inner.reverse.dropWhile (· ≠ '\x7d')).drop 1).reverse
    let first ← list.head?
    if first = '\x7d' then none
    else some (list, s.drop (line.length - (inner.length - list.length - 1)))
  ((afterLead? [':'] inner).bind read?).orElse fun _ => read? inner

/-- The text before a list that is all that is left of a text but for spaces, and the list. The
list comes after what `lead` takes, and the first such place counts.
-/
def cutAtList? (lead : List Char → Option (List Char))
    : List Char → Option (List Char × List Char)
  | [] => none
  | c :: rest =>
      let here? := do
        let (list, after) ← readList? (← lead (c :: rest))
        let after := after.dropWhile (· = ' ')
        if after.isEmpty || after = ['\n'] then some ([], list) else none
      match here? with
      | some found => some found
      | none => (cutAtList? lead rest).map fun (before, list) => (c :: before, list)

/-- The spaces before a list at the end of a heading or a cell. -/
def afterSpaces? (s : List Char) : Option (List Char) :=
  if s.head? = some ' ' then some (s.dropWhile (· = ' ')) else none

/-- The line break before a list at the end of another block. -/
def afterBreak? (s : List Char) : Option (List Char) :=
  (afterLead? ['\n'] s).map (·.dropWhile (· = ' '))

/-! ### Elements -/

/-- Blocks whose list is at the end of their line. -/
def lineTags : List String :=
  headingTags ++ ["dt", "td", "th"]

/-- The text before the list at its end, and the settings of the list, unless the list cannot be
read to its end. Number signs at the end of a heading do not count.
-/
def takeList? (e : Element) (r : Run) : Option (Run × List Setting) := do
  let lead := if e.isIn lineTags then afterSpaces? else afterBreak?
  let (before, list) ← cutAtList? lead r.chars
  let (settings, left) := settingsOf list
  let before :=
    if e.isIn headingTags then trimRight (dropRightWhile (· = '#') before) else before
  if left.isEmpty then some (.plain before, settings) else none

/-- The element with the settings of a list at the end of its text. -/
def takeFromLead (e : Element) : Element :=
  match takeList? e e.lead with
  | some (lead, settings) => settings.foldl Element.assign { e with lead }
  | none => e

/-- The element with the settings of a list at the end of the text after its `n`th child. -/
def takeFromTail (e : Element) (n : Nat) : Element :=
  match e.children[n]? with
  | some (child, tail) =>
      match takeList? e tail with
      | some (tail, settings) =>
          settings.foldl Element.assign { e with children := e.children.set n (child, tail) }
      | none => e
  | none => e

/-- The place of the text at the end of a block: after one of its children, or before all of them.
In an item of a list it is before the first list.
-/
def endOfText (e : Element) : Option Nat :=
  let lists := if e.tag = "li" then e.children.findIdx? (·.1.isIn listTags) else none
  let n := lists.getD e.children.length
  match e.children[n - 1]? with
  | some (_, tail) => if 0 < n && !tail.isEmpty then some (n - 1) else none
  | none => none

/-- The block with the settings of the list at the end of its text. -/
def assignBlock (e : Element) : Element :=
  match endOfText e with
  | some n => takeFromTail e n
  | none => takeFromLead e

/-- An element in a line with the settings of the list just after it, and the rest of the text
after it. What could not be read of the list is put behind the text.
-/
def assignInline (e : Element) (tail : Run) : Element × Run :=
  match readList? tail.chars with
  | some (list, rest) =>
      let (settings, left) := settingsOf list
      (settings.foldl Element.assign e, .plain (rest ++ left))
  | none => (e, tail)

mutual

/-- The element with the lists at the end of all blocks in it given to the blocks. -/
def Element.withBlockLists (e : Element) : Element :=
  let e := { e with children := withBlockListsIn e.children }
  if e.isBlock then assignBlock e else e
termination_by sizeOf e
decreasing_by exact e.sizeOf_children_lt

/-- Children with the lists at the end of all blocks in them given to the blocks. -/
def withBlockListsIn : List (Element × Run) → List (Element × Run)
  | [] => []
  | (child, tail) :: rest => (child.withBlockLists, tail) :: withBlockListsIn rest
termination_by children => sizeOf children

end

mutual

/-- The element with the lists after all elements in its lines given to these elements. -/
def Element.withInlineLists (e : Element) : Element :=
  { e with children := withInlineListsIn e.children }
termination_by sizeOf e
decreasing_by exact e.sizeOf_children_lt

/-- Children with the lists after all elements in lines given to these elements. -/
def withInlineListsIn : List (Element × Run) → List (Element × Run)
  | [] => []
  | (child, tail) :: rest =>
      let child := child.withInlineLists
      (if child.isBlock then (child, tail) else assignInline child tail)
        :: withInlineListsIn rest
termination_by children => sizeOf children

end

end BlogSnapshot.Markdown
