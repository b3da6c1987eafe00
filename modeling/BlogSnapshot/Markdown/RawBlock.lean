import BlogSnapshot.Markdown.Held
import BlogSnapshot.Markdown.RawTag

/-! Blocks of HTML within a text with markup. A block reaches from its start tag at the start of a
line to its end tag; it is final, and held back. All other HTML stays where it is.
-/

namespace BlogSnapshot.Markdown

open Text

/-- The state of looking for blocks. -/
structure RawSearch where
  /-- The text that is looked through. -/
  text : List Char
  /-- The number of lines before the current place. -/
  line : Nat
  /-- The number of characters before the current place in its line. -/
  column : Nat
  /-- Where the lines of the text start, as far as that has been worked out. -/
  lineStarts : Array Nat
  /-- The element whose content is read as it is. -/
  verbatim : Option (List Char)
  inBlock : Bool
  /-- Whether the current line has had the end of a block. -/
  inTail : Bool
  /-- The open elements of the block, innermost first. -/
  openTags : List (List Char)
  block : List Char
  /-- The pieces of the text outside of blocks, the last one first. -/
  pieces : List (List Char)
  held : Held
  deriving Repr

/-- A step of the search with a result. -/
abbrev Searching := StateM RawSearch

namespace RawSearch

/-- The state before a text. -/
def initial (text : List Char) (held : Held) : RawSearch where
  text := text
  line := 0
  column := 0
  lineStarts := #[0]
  verbatim := none
  inBlock := false
  inTail := false
  openTags := []
  block := []
  pieces := []
  held := held

/-- The starts of at least so many more lines. A line after the last one starts behind the end. -/
def extendStarts (text : List Char) : Nat → Array Nat → Array Nat
  | 0, starts => starts
  | n + 1, starts =>
      let last := starts.back?.getD 0
      let lineLength := ((text.drop last).takeWhile (· ≠ '\n')).length
      extendStarts text n (starts.push (min (last + lineLength) text.length + 1))

/-- Where the current line starts. -/
def lineStart : Searching Nat := do
  let s ← get
  let starts := extendStarts s.text (s.line + 1 - s.lineStarts.size) s.lineStarts
  set { s with lineStarts := starts }
  pure (starts.getD s.line 0)

/-- The text from the current place on. -/
def here : Searching (List Char) := do
  let start ← lineStart
  let s ← get
  pure (s.text.drop (start + s.column))

/-- Whether at most three characters, all blank, are before the current place in its line. -/
def atLineStart : Searching Bool := do
  let s ← get
  if s.column = 0 then pure true
  else if 3 < s.column then pure false
  else
    let start ← lineStart
    pure (allBlank ((s.text.drop start).take s.column))

/-- Goes on after some characters. -/
def advance (passed : List Char) : Searching Unit :=
  modify fun s =>
    let feeds := passed.count '\n'
    if feeds = 0 then { s with column := s.column + passed.length }
    else { s with line := s.line + feeds, column := (afterLast (· = '\n') passed).length }

/-- Adds a piece to the text outside of blocks. -/
def addPiece (piece : List Char) : Searching Unit :=
  modify fun s => { s with pieces := piece :: s.pieces }

/-- Adds to the block. -/
def addToBlock (chars : List Char) : Searching Unit :=
  modify fun s => { s with block := s.block ++ chars }

/-- Adds the mark of a piece that is held back. -/
def addHeld (piece : List Char) : Searching Unit :=
  modify fun s =>
    { s with held := s.held.push piece, pieces := heldMark s.held.size :: s.pieces }

/-- Adds text to the block, or outside of blocks. -/
def addText (chars : List Char) : Searching Unit := do
  let s ← get
  if s.inTail && chars.contains '\n' then set { s with inTail := false }
  if s.inBlock then addToBlock chars else addPiece chars

/-- Whether a text starts with two empty lines. -/
def startsEmpty (s : List Char) : Bool :=
  match s.dropWhile (· = ' ') with
  | '\n' :: rest => (rest.dropWhile (· = ' ')).head? = some '\n'
  | _ => false

/-- Adds what stands alone: a tag without content, a comment or the like. At the start of a line
it is a block if it may be one.
-/
def addAlone (mayBlock : Bool) (chars : List Char) : Searching Unit := do
  let s ← get
  if s.inBlock || s.inTail then addToBlock chars
  else if mayBlock && (← atLineStart) then
    let empty := startsEmpty ((← here).drop chars.length)
    if !empty then modify fun s => { s with inTail := true }
    let last := ((← get).pieces.head?).getD []
    let feeds := (last.reverse.takeWhile (· = '\n')).length
    if feeds = 1 then addPiece ['\n']
    addHeld (if empty then chars ++ ['\n'] else chars)
    addPiece ['\n', '\n']
  else addPiece chars

/-- Elements whose content is read as it is. -/
def verbatimTags : List String :=
  ["script", "style"]

/-- A start tag. One of a block begins a block at the start of a line or just after a block. -/
def addStart (tag text : List Char) : Searching Unit := do
  if tag = "hr".toList then addAlone true text
  else
    let isVerbatim := verbatimTags.contains (String.ofList tag)
    if isVerbatim then modify fun s => { s with verbatim := some tag }
    let s ← get
    if isBlockTag tag && (s.inTail || (← atLineStart)) then
      modify fun s => { s with inBlock := true }
      addPiece ['\n']
    if (← get).inBlock then
      modify fun s => { s with openTags := tag :: s.openTags }
      addToBlock text
    else
      addPiece text
      if isVerbatim then modify fun s => { s with verbatim := none }

/-- An end tag. The end tag of the outermost element ends a block. -/
def addEnd (tag : List Char) : Searching Unit := do
  let text ← here
  let text := match cutAt (· = '>') text with
    | (inner, some _) => inner ++ ['>']
    | (_, none) => "</".toList ++ tag ++ ['>']
  if (← get).inBlock then
    addToBlock text
    modify fun s =>
      if s.openTags.contains tag then
        { s with openTags := (s.openTags.dropWhile (· ≠ tag)).drop 1 }
      else s
    if (← get).openTags.isEmpty then
      if startsEmpty ((← here).drop text.length) then addToBlock ['\n']
      else modify fun s => { s with inTail := true }
      addHeld (← get).block
      addPiece ['\n', '\n']
      modify fun s => { s with inBlock := false, block := [] }
  else addPiece text

/-- Reads a start tag and gives the text after it. -/
def readStart (s : List Char) : Searching (List Char) := do
  if let some rest := afterLead? "</>".toList s then
    addText "</>".toList
    pure rest
  else
    let (tag, shape, text, rest) := RawTag.read s
    match shape with
    | .start => addStart tag text
    | .empty => addAlone (isBlockTag tag) text
    | .text => addText text
    pure rest

/-- The name of an end tag that is nothing but a name, and blanks. -/
def plainEndName? (s : List Char) : Option (List Char) :=
  let s := s.dropWhile isBlank
  let name := s.takeWhile fun c => c.isAlphanum || "-.:_".toList.contains c
  match name, (s.drop name.length).dropWhile isBlank with
  | c :: _, '>' :: _ => if c.isAlpha then some name else none
  | _, _ => none

/-- Reads an end tag and gives the text after it. -/
def readEnd? (s : List Char) : Searching (Option (List Char)) := do
  let inner := s.drop 2
  if !(inner.head?.any (·.isAlpha)) then
    addText (s.take 2)
    pure (some inner)
  else match cutAt (· = '>') inner with
    | (_, none) => pure none
    | (content, some rest) =>
        let verbatim := (← get).verbatim
        match plainEndName? inner with
        | some name =>
            let tag := lower name
            if verbatim.any (· ≠ tag) then addText (s.take (content.length + 3))
            else
              addEnd tag
              modify fun s => { s with verbatim := none }
        | none =>
            if verbatim.isSome then addText (s.take (content.length + 3))
            else addEnd (lower (inner.takeWhile RawTag.isNameChar))
        pure (some rest)

/-- The text of a comment, the length of its end, and the text after it. Blanks may be in the
end.
-/
def commentEnd? : List Char → Option (List Char × Nat × List Char)
  | [] => none
  | c :: rest =>
      let closed? := do
        let after ← afterLead? "--".toList (c :: rest)
        let blanks := after.takeWhile isBlank
        let after ← afterLead? ['>'] (after.drop blanks.length)
        some (blanks.length + 3, after)
      match closed? with
      | some (n, after) => some ([], n, after)
      | none => (commentEnd? rest).map fun (text, after) => (c :: text, after)

/-- Reads a comment. A comment with blanks in its end is none, and its bracket is text. -/
def readComment? (s : List Char) : Searching (Option (List Char)) := do
  match commentEnd? (s.drop 4) with
  | none => pure none
  | some (content, _, rest) =>
      let after := (← here).drop (content.length + 4)
      if after.take 3 = "-->".toList then
        addAlone true ("<!--".toList ++ content ++ "-->".toList)
        pure (some rest)
      else
        addText ['<']
        pure (some (s.drop 1))

/-- Reads an instruction. -/
def readInstruction? (s : List Char) : Searching (Option (List Char)) := do
  if (← get).inTail || (← atLineStart) then
    match cutAtText? "?>".toList (s.drop 2) with
    | none => pure none
    | some (content, rest) =>
        addAlone true ("<?".toList ++ content ++ "?>".toList)
        pure (some rest)
  else
    addText (s.take 2)
    pure (some (s.drop 2))

/-- Reads what is no known declaration, up to its bracket. -/
def readUnknown? (s : List Char) : Searching (Option (List Char)) := do
  match cutAt (· = '>') (s.drop 2) with
  | (_, none) => pure none
  | (content, some rest) =>
      addAlone false ("<!".toList ++ content ++ ['>'])
      pure (some rest)

/-- The text of a section and the text after its end. Blanks may be in the end. -/
def sectionEnd? : List Char → Option (List Char × List Char)
  | [] => none
  | c :: rest =>
      let closed? := do
        let after ← afterLead? [']'] (c :: rest)
        let after ← afterLead? [']'] (after.dropWhile isBlank)
        afterLead? ['>'] (after.dropWhile isBlank)
      match closed? with
      | some after => some ([], after)
      | none => (sectionEnd? rest).map fun (text, after) => (c :: text, after)

/-- Reads a declaration. -/
def readDeclaration? (s : List Char) : Searching (Option (List Char)) := do
  if (← get).inTail || (← atLineStart) then
    if (afterLead? "<![CDATA[".toList s).isSome then
      match sectionEnd? (s.drop 3) with
      | none => pure none
      | some (content, rest) =>
          addAlone true ("<![".toList ++ content ++ "]]>".toList)
          pure (some rest)
    else if (afterLead? "<![".toList s).isSome then
      match ← readUnknown? s with
      | some rest => pure (some rest)
      | none =>
          addText (s.take 1)
          pure (some (s.drop 1))
    else if lower (s.take 9) = "<!doctype".toList then
      match cutAt (· = '>') (s.drop 9) with
      | (_, none) => pure none
      | (content, some rest) =>
          addAlone true (s.take 9 ++ content ++ ['>'])
          pure (some rest)
    else readUnknown? s
  else
    addText (s.take 2)
    pure (some (s.drop 2))

/-- Reads what an angle bracket starts and gives the text after it; nothing if its end is missing.
A bracket that starts nothing is text.
-/
def readBracket? (s : List Char) : Searching (Option (List Char)) := do
  match s.drop 1 with
  | c :: rest =>
      if c.isAlpha || s.take 3 = "</>".toList then return some (← readStart s)
      else if c = '/' then readEnd? s
      else if c = '!' then
        if rest.take 2 = "--".toList then readComment? s else readDeclaration? s
      else if c = '?' then readInstruction? s
      else
        addText (s.take 1)
        pure (some (s.drop 1))
  | [] => pure none

/-- What the text is when an angle bracket has no end: up to the next closing bracket, or before
the next opening one, or the bracket alone.
-/
def unended (s : List Char) : Nat :=
  let rest := s.drop 1
  match cutAt (· = '>') rest, cutAt (· = '<') rest with
  | (content, some _), _ => content.length + 2
  | _, (content, some _) => content.length + 1
  | _, _ => 1

/-- Reads a reference by number; what ends its digits may be a semicolon. -/
def numberReference? (s : List Char) : Option (List Char × List Char) := do
  let isHex (c : Char) : Bool := c.isDigit || ('a' ≤ c && c ≤ 'f') || ('A' ≤ c && c ≤ 'F')
  let s ← afterLead? "&#".toList s
  let digits := match s with
    | 'x' :: rest => 'x' :: rest.takeWhile isHex
    | 'X' :: rest => 'X' :: rest.takeWhile isHex
    | _ => s.takeWhile Char.isDigit
  let rest := s.drop digits.length
  let short := digits.isEmpty || digits = ['x'] || digits = ['X']
  match rest with
  | c :: after =>
      if short || isHex c then none
      else some (digits, if c = ';' then after else rest)
  | [] => none

/-- Reads a reference by name. -/
def nameReference? (s : List Char) : Option (List Char × List Char) := do
  let s ← afterLead? ['&'] s
  let name := s.takeWhile fun c => c.isAlphanum || c = '-' || c = '.'
  let rest ← afterLead? [';'] (s.drop name.length)
  if name.head?.any (·.isAlpha) then some (name, rest) else none

/-- The text before what may be markup: an ampersand or an angle bracket, or in an element whose
content is read as it is, its end tag.
-/
def beforeMarkup? (verbatim : Option (List Char)) (s : List Char)
    : Option (List Char × List Char) :=
  match verbatim with
  | none =>
      let before := s.takeWhile fun c => c ≠ '&' && c ≠ '<'
      some (before, s.drop before.length)
  | some tag => search tag s
where
  search (tag : List Char) : List Char → Option (List Char × List Char)
    | [] => none
    | c :: rest =>
        let isEnd := (do
          let after ← afterLead? "</".toList (c :: rest)
          let after := after.dropWhile isBlank
          let word := after.take tag.length
          if word.map Char.toLower = tag then
            afterLead? ['>'] ((after.drop tag.length).dropWhile isBlank)
          else none).isSome
        if isEnd then some ([], c :: rest)
        else (search tag rest).map fun (before, after) => (c :: before, after)

/-- Looks through a text in at most `fuel` steps and gives what is left of it where a reference or
a tag breaks off. `last` tells that no more text follows.
-/
def search (last : Bool) : Nat → List Char → Searching (List Char)
  | 0, s => pure s
  | _, [] => pure []
  | fuel + 1, s => do
      match beforeMarkup? (← get).verbatim s with
      | none => pure s
      | some (before, markup) =>
          if !before.isEmpty then addText before
          advance before
          let moveTo (rest : List Char) : Searching (List Char) := do
            advance (markup.take (markup.length - rest.length))
            search last fuel rest
          if markup.isEmpty then pure []
          else if markup.head? = some '<' then
            match ← readBracket? markup with
            | some rest => moveTo rest
            | none =>
                if last && 1 < markup.length then
                  let n := unended markup
                  addText (markup.take n)
                  moveTo (markup.drop n)
                else pure markup
          else if (afterLead? "&#".toList markup).isSome then
            match numberReference? markup with
            | some (number, rest) =>
                addAlone false ("&#".toList ++ number ++ [';'])
                moveTo rest
            | none =>
                if markup.contains ';' then
                  addText (markup.take 2)
                  advance (markup.take 2)
                  pure (markup.drop 2)
                else pure markup
          else match nameReference? markup with
            | some (name, rest) =>
                addAlone false ('&' :: name ++ [';'])
                moveTo rest
            | none =>
                if 1 < markup.length then
                  addText (markup.take 1)
                  moveTo (markup.drop 1)
                else pure markup

/-- Looks through a whole text. Where it breaks off, what is left is looked through once more as a
text of its own, and what breaks off again is text. A block without end reaches to the end.
-/
def searchAll (text : List Char) : Searching Unit := do
  let left ← search false (text.length + 1) text
  modify fun s => { s with text := left }
  let left ← search true (2 * left.length + 2) left
  if !left.isEmpty then addText left
  let s ← get
  if !s.block.isEmpty then addHeld s.block

end RawSearch

/-- The text with a mark in place of every block of HTML. -/
def holdBlocks (text : List Char) : StateM Held (List Char) := do
  let ((), found) := (RawSearch.searchAll text).run (RawSearch.initial text (← get))
  set found.held
  pure found.pieces.reverse.flatten

end BlogSnapshot.Markdown
