import BlogSnapshot.Markdown.Block.Reference
import BlogSnapshot.Markdown.Held

/-! Markup within a run of text. Patterns are searched for one after the other; what a pattern
finds is set aside, and a mark stands in its place, so that the next pattern sees it as a unit.
-/

namespace BlogSnapshot.Markdown

open Text

/-- What a pattern puts in the place of what it finds. -/
inductive Piece where
  | text (chars : List Char)
  | element (e : Element)
  deriving Repr

/-- What is known while a tree is searched: the references, the final HTML that is held, and the
pieces that are set aside.
-/
structure SpanState where
  references : References
  held : Held
  pieces : Array Piece
  deriving Repr

/-- A step of the search with a result. -/
abbrev Spanning := StateM SpanState

/-- What a pattern makes of a place in a text: nothing, so that the search goes on with the next
character; a number of characters to be passed over; or a piece that takes the place of a number
of characters.
-/
inductive Finding where
  | nothing
  | passed (count : Nat)
  | found (piece : Piece) (count : Nat)
  deriving Repr

/-- A pattern looks at the characters before a place, the nearest first, and at those after it. -/
abbrev Pattern := List Char → List Char → Spanning Finding

namespace Span

/-- The word in the marks of pieces. -/
def pieceWord : List Char :=
  "klzzwxh:".toList

/-- The mark of a piece; its number has four digits at least. -/
def pieceMark (n : Nat) : List Char :=
  let digits := (toString n).toList
  mark (pieceWord ++ List.replicate (4 - digits.length) '0' ++ digits)

/-- Sets a piece aside and gives its mark. -/
def setAside (piece : Piece) : Spanning (List Char) := do
  let s ← get
  set { s with pieces := s.pieces.push piece }
  pure (pieceMark s.pieces.size)

/-- Holds final HTML back and gives its mark. -/
def holdHtml (html : List Char) : Spanning (List Char) := do
  let s ← get
  set { s with held := s.held.push html }
  pure (heldMark s.held.size)

/-- Reads the mark of a piece that is set aside. -/
def pieceMark? (pieces : Array Piece) (s : List Char) : Option (Piece × List Char) := do
  let (n, rest) ← markNumber? pieceWord s
  pure (← pieces[n]?, rest)

/-! ### Searching -/

/-- The first piece that a pattern finds: all text before it, the nearest character first, the
piece, and the text after it. `skip` characters are passed over first.
-/
def first? (pattern : Pattern) : Nat → List Char → List Char
    → Spanning (Option (List Char × Piece × List Char))
  | _, _, [] => pure none
  | skip + 1, before, c :: rest => first? pattern skip (c :: before) rest
  | 0, before, c :: rest => do
      match ← pattern before (c :: rest) with
      | .nothing => first? pattern 0 (c :: before) rest
      | .passed n => first? pattern (n - 1) (c :: before) rest
      | .found piece n => pure (some (before, piece, (c :: rest).drop n))

mutual

/-- The text with marks for all that the patterns find, one after the other. -/
def searched : Nat → List Pattern → List Char → Spanning (List Char)
  | 0, _, s => pure s
  | _, [], s => pure s
  | fuel + 1, pattern :: patterns, s => searchedFrom fuel pattern patterns [] s

/-- The text with marks for all that a pattern finds after a place, and then for all that further
patterns find. The text of an element that is found is searched with the further patterns, and
the text after its children with the same pattern as well.
-/
def searchedFrom : Nat → Pattern → List Pattern → List Char → List Char
    → Spanning (List Char)
  | 0, _, _, before, s => pure (before.reverse ++ s)
  | fuel + 1, pattern, patterns, before, s => do
      match ← first? pattern 0 before s with
      | none => searched fuel patterns (before.reverse ++ s)
      | some (before, piece, after) =>
          let mark ← setAside (← searchedPiece fuel pattern patterns piece)
          searchedFrom fuel pattern patterns (mark.reverse ++ before) after

/-- A piece with the text in it searched. -/
def searchedPiece : Nat → Pattern → List Pattern → Piece → Spanning Piece
  | 0, _, _, piece => pure piece
  | _, _, _, .text chars => pure (.text chars)
  | fuel + 1, pattern, patterns, .element e => do
      if e.lead.fixed then pure (.element e)
      else
        let search (patterns : List Pattern) (r : Run) : Spanning Run := do
          if r.isOpen then pure (.plain (← searched fuel patterns r.chars)) else pure r
        let lead ← search patterns e.lead
        let children ← e.children.mapM fun (child, tail) => do
          let lead ← search patterns child.lead
          let tail ← search (pattern :: patterns) tail
          pure ({ child with lead }, tail)
        pure (.element { e with lead, children })

end

/-! ### Putting pieces back -/

/-- A run of text and then children with the runs after them. -/
abbrev Content := Run × List (Element × Run)

/-- The content with more content after it. -/
def append (a b : Content) : Content :=
  match a.2.getLast? with
  | none => (a.1.join b.1, b.2)
  | some (child, tail) => (a.1, a.2.dropLast ++ (child, tail.join b.1) :: b.2)

/-- The text up to the first mark of a piece, the piece and the text after its mark. -/
def cutAtPiece? (pieces : Array Piece)
    : List Char → Option (List Char × Piece × List Char)
  | [] => none
  | c :: rest =>
      match pieceMark? pieces (c :: rest) with
      | some (piece, rest) => some ([], piece, rest)
      | none =>
          (cutAtPiece? pieces rest).map fun (before, piece, after) => (c :: before, piece, after)

mutual

/-- The content of a run in which the marks of pieces are replaced by the pieces. -/
def contentOf (pieces : Array Piece) : Nat → Run → Content
  | 0, r => (r, [])
  | fuel + 1, r =>
      match cutAtPiece? pieces r.chars with
      | none => (r, [])
      | some (before, piece, after) =>
          let here : Content := match piece with
            | .text chars => (.plain chars, [])
            | .element e => (.empty, [(filled pieces fuel e, .empty)])
          let rest := contentOf pieces fuel { r with chars := after }
          append (append (.plain before, []) here) rest

/-- An element with the pieces put back into its text and that of its children. -/
def filled (pieces : Array Piece) : Nat → Element → Element
  | 0, e => e
  | fuel + 1, e =>
      let lead := contentOf pieces fuel e.lead
      let child (c : Element × Run) : List (Element × Run) :=
        let inner := contentOf pieces fuel c.1.lead
        let tail := contentOf pieces fuel c.2
        let filledChild := { c.1 with lead := inner.1, children := inner.2 ++ c.1.children }
        (filledChild, tail.1) :: tail.2
      { e with lead := lead.1, children := lead.2 ++ e.children.flatMap child }

end

/-! ### Trees -/

/-- The content that the markup in a run stands for. -/
def contentOfRun (patterns : List Pattern) (r : Run) : Spanning Content := do
  if r.isOpen then
    let fuel := 4 * r.chars.length + patterns.length + 16
    let s ← searched fuel patterns r.chars
    let pieces := (← get).pieces
    pure (contentOf pieces (s.length + pieces.size + 1) (.plain s))
  else pure (r, [])

/-- A child whose text has been searched: what was found in its own text and is still to be its
first children, the child without that, and the run after it.
-/
structure Searched where
  new : List (Element × Run)
  child : Element
  tail : Run
  deriving Repr

/-- Searches the text of children and the runs after them. Elements that are found in a run after
a child are searched like further children; `fuel` bounds the number of all.
-/
def searchRow (patterns : List Pattern) : Nat → List (Element × Run) → Spanning (List Searched)
  | 0, row => pure (row.map fun (child, tail) => ⟨[], child, tail⟩)
  | _, [] => pure []
  | fuel + 1, (child, tail) :: rest => do
      let (lead, new) ← contentOfRun patterns child.lead
      let (tail, more) ← contentOfRun patterns tail
      let rest ← searchRow patterns fuel (more ++ rest)
      pure (⟨new, { child with lead }, tail⟩ :: rest)

/-- Changes the members of a list from the last to the first. -/
def changeFromLast {α β : Type} (change : α → Spanning β) : List α → Spanning (List β)
  | [] => pure []
  | a :: rest => do
      let rest ← changeFromLast change rest
      pure ((← change a) :: rest)

/-- The element with all text below its own searched, `fuel` levels down at most. First comes the
text of its children, from the first to the last, and then what is below them, from the last to
the first.
-/
def searchTree (patterns : List Pattern) : Nat → Element → Spanning Element
  | 0, e => pure e
  | fuel + 1, e => do
      let row ← searchRow patterns (fuel + 1) e.children
      let below (s : Searched) : Spanning (Element × Run) := do
        let whole := { s.child with children := s.new ++ s.child.children }
        if s.child.children.isEmpty then
          let new ← changeFromLast
            (fun (e, tail) => do pure (← searchTree patterns fuel e, tail)) s.new
          pure ({ s.child with children := new }, s.tail)
        else pure (← searchTree patterns fuel whole, s.tail)
      pure { e with children := ← changeFromLast below row }

end Span

end BlogSnapshot.Markdown
