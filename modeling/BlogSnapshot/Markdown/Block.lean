import BlogSnapshot.Markdown.Block.Reference
import BlogSnapshot.Markdown.Block.Table
import BlogSnapshot.Markdown.Write

/-! The block structure of a text: headings, lists, quotations, code, tables and paragraphs. The
text within a block is left as it is.
-/

namespace BlogSnapshot.Markdown

open Text

/-- What surrounds the block that is read, as far as it matters for its meaning. -/
inductive Surrounding where
  | page
  /-- An item of a list without empty lines. -/
  | tightItem
  /-- The first block of an item after an empty line. -/
  | looseItem
  /-- Text that has been moved back from its indentation. -/
  | movedBack
  | quotation
  deriving DecidableEq, Repr

/-- Reading blocks collects the definitions of references. -/
abbrev Reading := StateM References

namespace Block

/-! ### Changes of the tree -/

/-- The code of an element that is a block of code. -/
def code? (e : Element) : Option Element :=
  match e.children with
  | (code, _) :: _ => if e.tag = "pre" && code.tag = "code" then some code else none
  | [] => none

/-- A block of code. -/
def codeBlock (text : List Char) : Element :=
  (Element.bare "pre").add (.ofRun "code" (.verbatim text))

/-- The element with a change to its last child if that is a block of code. -/
def changeLastCode? (parent : Element) (change : List Char → List Char) : Option Element := do
  let last ← parent.last?
  let code ← code? last
  let changed := { code with lead := .verbatim (change code.lead.chars) }
  pure (parent.setLast { last with children := (changed, .empty) :: last.children.drop 1 })

/-- The item with its text made a paragraph. -/
def withParagraph (item : Element) : Element :=
  if item.lead.isEmpty then item
  else
    { item with
      lead := .empty,
      children := (Element.ofRun "p" item.lead, .empty) :: item.children }

/-- The item with the text after its last child made a paragraph. -/
def withTailParagraph (item : Element) : Element :=
  let tail := item.lastTail
  if tail.isEmpty then item
  else (item.setLastTail .empty).add (.ofText "p" (trimLeft tail.chars))

/-- The element with a change so many last children further down. -/
def changeLast (change : Element → Reading Element) : Nat → Element → Reading Element
  | 0, e => change e
  | depth + 1, e => do
      match e.last? with
      | some last => pure (e.setLast (← changeLast change depth last))
      | none => pure e

/-- The element with a change to its last child. -/
def changeLastChild (change : Element → Reading Element) (e : Element) : Reading Element :=
  changeLast change 1 e

/-! ### Lists -/

/-- How far an indented block goes down into lists: the number of lists and the number of last
children.
-/
def levelFrom (target : Nat) : Nat → Nat → Element → Nat × Nat
  | 0, level, _ => (level, 0)
  | fuel + 1, level, e =>
      if target ≤ level then (level, 0)
      else match e.last? with
        | some last =>
            if last.isIn ("li" :: listTags) then
              let level := if last.isIn listTags then level + 1 else level
              let (level, depth) := levelFrom target fuel level last
              (level, depth + 1)
            else (level, 0)
        | none => (level, 0)

/-- The texts of the items of a list. A line that is indented by a level starts a text of its own
when it has a mark and the text before is not indented.
-/
def itemsOf (lines : List (List Char)) : List (List Char) :=
  (lines.foldl addLine []).reverse
where
  addLine (items : List (List Char)) (line : List Char) : List (List Char) :=
    let onMargin? := (atMargin? line).bind afterMark?
    let n := leadingSpaces line
    let nested := 4 ≤ n && n < 8 && (afterMark? (line.drop n)).isSome
    match onMargin?, items with
    | some text, items => text :: items
    | none, last :: items =>
        if nested && !isIndented last then line :: last :: items
        else (last ++ '\n' :: line) :: items
    | none, [] => [line]

/-! ### Blocks -/

/-- Reads blocks into an element. -/
abbrev Reader := Surrounding → Element → List (List Char) → Reading Element

/-- Reads items into a list. An indented one goes into the item before it. -/
def readItems (read : Reader) (items : List (List Char)) (list : Element) : Reading Element :=
  items.foldlM readItem list
where
  readItem (list : Element) (item : List Char) : Reading Element := do
    if isIndented item then
      changeLastChild (fun last => read .tightItem last [item]) list
    else pure (list.add (← read .tightItem (.bare "li") [item]))

/-- Reads a list. It goes on with a list that comes just before it. -/
def readList (read : Reader) (tag : String) (parent : Element) (block : List Char)
    : Reading Element := do
  let items := itemsOf (linesOf block)
  match parent.last? with
  | some last =>
      if last.isIn listTags then
        let list := match last.last? with
          | some item => last.setLast (withTailParagraph (withParagraph item))
          | none => last
        let first ← read .looseItem (.bare "li") (items.take 1)
        pure (parent.setLast (← readItems read (items.drop 1) (list.add first)))
      else fresh items
  | none => fresh items
where
  fresh (items : List (List Char)) : Reading Element := do
    if parent.isIn listTags then readItems read items parent
    else pure (parent.add (← readItems read items (.bare tag)))

/-- Reads an indented block that belongs to an item of a list. -/
def readIndented (read : Reader) (surrounding : Surrounding) (parent : Element)
    (block : List Char) : Reading Element :=
  let start := if surrounding = .tightItem then 1 else 0
  let (level, depth) := levelFrom (leadingSpaces block / 4) (block.length + 1) start parent
  let block := unindented level block
  let readInto (e : Element) : Reading Element := read .movedBack e [block]
  let readBelow (e : Element) : Reading Element := do
    if e.tag = "li" then readInto e
    else match e.last? with
      | some last =>
          if last.tag = "li" then
            pure (e.setLast (← read .movedBack (withParagraph last) (blocksOf block)))
          else pure (e.add (← readInto (.bare "li")))
      | none => pure (e.add (← readInto (.bare "li")))
  if parent.tag = "li" then
    if (parent.last?.any (·.isIn listTags)) then changeLastChild readInto parent
    else readInto parent
  else changeLast readBelow depth parent

/-- Reads a quotation, after what is before its first line. -/
def readQuotation (read : Reader) (surrounding : Surrounding) (parent : Element)
    (block : List Char) : Reading Element := do
  let lines := linesOf block
  let before := lines.takeWhile fun line => (quotedText? line).isNone
  let quoted := lines.drop before.length
  let parent ← read surrounding parent [ofLines before]
  let clean (line : List Char) : List Char :=
    if trim line = ['>'] then [] else (quotedText? line).getD line
  let text := ofLines ((if before.isEmpty then [] else [[]]) ++ quoted.map clean)
  match parent.last? with
  | some last =>
      if last.tag = "blockquote" then
        pure (parent.setLast (← read .quotation last (blocksOf text)))
      else pure (parent.add (← read .quotation (.bare "blockquote") (blocksOf text)))
  | none => pure (parent.add (← read .quotation (.bare "blockquote") (blocksOf text)))

/-- Reads a paragraph. In an item without empty lines its text is no element of its own. -/
def readParagraph (surrounding : Surrounding) (parent : Element) (block : List Char) : Element :=
  let text := trimLeft block
  if allBlank block then parent
  else if surrounding = .tightItem then
    if !parent.children.isEmpty then
      parent.setLastTail (.plain (parent.lastTail.chars ++ '\n' :: block))
    else if parent.lead.isEmpty then { parent with lead := .plain text }
    else { parent with lead := .plain (parent.lead.chars ++ '\n' :: text) }
  else parent.add (.ofText "p" text)

/-- Text that still has to be read; nothing if it is empty. -/
def pending (s : List Char) : List (List Char) :=
  if s.isEmpty then [] else [s]

/-- A heading. -/
def heading (level : Nat) (text : List Char) : Element :=
  .ofText ("h" ++ toString level) (trim text)

/-- Reads the first block into an element and gives the blocks that are left. -/
def readOne (read : Reader) (surrounding : Surrounding) (parent : Element) (block : List Char)
    (rest : List (List Char)) : Reading (Element × List (List Char)) := do
  let lines := linesOf block
  let headLine := lines.takeWhile fun line => (hashHeading? line).isNone
  let ruleLine := lines.takeWhile fun line => !isRule line
  let inList := parent.tag = "li" || parent.last?.any (·.isIn listTags)
  if block.isEmpty || block.head? = some '\n' then
    let feeds := if block.isEmpty then ['\n', '\n'] else ['\n']
    let parent := (changeLastCode? parent (· ++ feeds)).getD parent
    pure (parent, pending (block.drop 1) ++ rest)
  else if isIndented block && surrounding ≠ .movedBack && inList then
    pure (← readIndented read surrounding parent block, rest)
  else if isIndented block then
    let (text, after) := splitIndented block
    let text := escapedCode (trimRight text) ++ ['\n']
    let parent := match changeLastCode? parent (· ++ '\n' :: text) with
      | some parent => parent
      | none => parent.add (codeBlock text)
    pure (parent, pending after ++ rest)
  else if let some shape := Table.shape? block then
    pure (parent.add (Table.element shape block), rest)
  else if let some (level, title) := (lines.drop headLine.length).head?.bind hashHeading? then
    let before := ofLines headLine
    let parent ← if before.isEmpty then pure parent else read surrounding parent [before]
    let after := ofLines (lines.drop (headLine.length + 1))
    let after := if surrounding = .looseItem then unindented 1 after else after
    pure (parent.add (heading level title), pending after ++ rest)
  else if (lines.drop 1).head?.any isUnderline then
    let level := if (lines.drop 1).head?.bind List.head? = some '=' then 1 else 2
    let parent := parent.add (heading level (lines.headD []))
    pure (parent, (if 2 < lines.length then [ofLines (lines.drop 2)] else []) ++ rest)
  else if ruleLine.length < lines.length then
    let before := dropRightWhile (· = '\n') (ofLines ruleLine)
    let parent ← if before.isEmpty then pure parent else read surrounding parent [before]
    let after := (ofLines (lines.drop (ruleLine.length + 1))).dropWhile (· = '\n')
    pure (parent.add (.bare "hr"), pending after ++ rest)
  else if ((atMargin? block).bind afterNumber?).isSome then
    pure (← readList read "ol" parent block, rest)
  else if ((atMargin? block).bind afterBullet?).isSome then
    pure (← readList read "ul" parent block, rest)
  else if lines.any fun line => (quotedText? line).isSome then
    pure (← readQuotation read surrounding parent block, rest)
  else if let some (before, label, reference, after) := Reference.find? true block then
    modify fun references => (label, reference) :: references
    let after := if allBlank after then [] else [after.dropWhile (· = '\n')]
    let before := if allBlank before then [] else [dropRightWhile (· = '\n') before]
    pure (parent, before ++ after ++ rest)
  else pure (readParagraph surrounding parent block, rest)

/-- Reads blocks in at most `fuel` steps. -/
def readAll : Nat → Reader
  | 0, _, parent, _ => pure parent
  | _, _, parent, [] => pure parent
  | fuel + 1, surrounding, parent, block :: rest => do
      let (parent, rest) ← readOne (readAll fuel) surrounding parent block rest
      readAll fuel surrounding parent rest

/-- Reads the blocks of a text. Each step takes a character or a break between blocks, or moves
text back that is then no longer indented.
-/
def read (text : List Char) : Element × References :=
  (readAll (4 * text.length + 16) .page (.bare "div") (blocksOf text)).run []

end Block

end BlogSnapshot.Markdown
