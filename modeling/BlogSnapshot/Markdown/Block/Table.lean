import BlogSnapshot.Markdown.Block.Line
import BlogSnapshot.Markdown.Tree

/-! Tables: a row of headers, a row of lines that tells how columns are aligned, and rows of
cells.
-/

namespace BlogSnapshot.Markdown.Table

open Text

/-- What a row consists of: marks of code, bars, and anything else. -/
inductive Part where
  /-- Code marks, and whether a backslash is before them. -/
  | ticks (count : Nat) (escaped : Bool)
  | bar
  | other (chars : List Char)
  deriving DecidableEq, Repr

/-- The characters of a part. -/
def Part.chars : Part → List Char
  | ticks count escaped => (if escaped then ['\\'] else []) ++ List.replicate count '\x60'
  | bar => ['|']
  | other chars => chars

/-- The parts of a row. A backslash joins a backslash, code marks or a bar that follow it. -/
def partsFrom : Nat → List Char → List Part
  | 0, _ => []
  | _, [] => []
  | fuel + 1, c :: rest =>
      let ticks (s : List Char) : Nat := (s.takeWhile (· = '\x60')).length
      match c, rest with
      | '\\', '\\' :: rest => .other ['\\', '\\'] :: partsFrom fuel rest
      | '\\', '|' :: rest => .other ['\\', '|'] :: partsFrom fuel rest
      | '\\', '\x60' :: _ => .ticks (ticks rest) true :: partsFrom fuel (rest.drop (ticks rest))
      | '\x60', _ =>
          .ticks (ticks rest + 1) false :: partsFrom fuel (rest.drop (ticks rest))
      | '|', rest => .bar :: partsFrom fuel rest
      | c, rest => .other [c] :: partsFrom fuel rest

/-- The parts up to code marks of a length, these included, and the parts after them. -/
def throughTicks? (size : Nat) : List Part → Option (List Part × List Part)
  | [] => none
  | part :: rest =>
      let isEnd : Bool := match part with
        | .ticks count _ => count = size
        | _ => false
      if isEnd then some ([part], rest)
      else (throughTicks? size rest).map fun (code, rest) => (part :: code, rest)

/-- The cells of parts. Between code marks of the same length, bars do not count; of marks with a
backslash before them, the first one is no mark when they open code.
-/
def cellsOf : Nat → List Part → List (List Char)
  | 0, _ => [[]]
  | _, [] => [[]]
  | fuel + 1, part :: rest =>
      let opened? := match part with
        | .ticks count escaped =>
            let size := count - if escaped then 1 else 0
            if size = 0 then none else throughTicks? size rest
        | _ => none
      let grow (chars : List Char) (cells : List (List Char)) : List (List Char) :=
        match cells with
        | cell :: cells => (chars ++ cell) :: cells
        | [] => [chars]
      match opened?, part with
      | some (code, rest), _ => grow (part.chars ++ code.flatMap Part.chars) (cellsOf fuel rest)
      | none, .bar => [] :: cellsOf fuel rest
      | none, _ => grow part.chars (cellsOf fuel rest)

/-- A text without the spaces at its ends. -/
def trimSpaces (s : List Char) : List Char :=
  dropRightWhile (· = ' ') (s.dropWhile (· = ' '))

/-- The row without a bar at its end, if the bar has no single backslash before it. Pairs of
backslashes before it go with it.
-/
def withoutEndBar? (row : List Char) : Option (List Char) :=
  match row.reverse with
  | '|' :: before =>
      let slashes := (before.takeWhile (· = '\\')).length
      if slashes % 2 = 0 then some (before.drop slashes).reverse else none
  | _ => none

/-- The cells of a row. Bars at its ends do not count when the table has borders. -/
def splitRow (bordered : Bool) (row : List Char) : List (List Char) :=
  let row := if bordered then (afterLead? ['|'] row).getD row else row
  let row := if bordered then (withoutEndBar? row).getD row else row
  let parts := partsFrom row.length row
  cellsOf parts.length parts

/-- How a column is aligned. -/
def alignment? (cell : List Char) : Option String :=
  let cell := trimSpaces cell
  let first := cell.head? = some ':'
  let last := cell.getLast? = some ':'
  if first && last then some "center"
  else if first then some "left"
  else if last then some "right"
  else none

/-- A block that is a table: whether it has borders, and the cells that align its columns. -/
structure Shape where
  bordered : Bool
  columns : List (Option String)
  deriving DecidableEq, Repr

/-- The shape of the table that a block is. Its first two rows have equally many cells; a table of
one column has a bar in every row.
-/
def shape? (block : List Char) : Option Shape :=
  match (linesOf block).map trimSpaces with
  | header :: line :: rows =>
      let bordered := header.head? = some '|' || (withoutEndBar? header).isSome
      let width := (splitRow bordered header).length
      let hasBar (row : List Char) : Bool :=
        row.head? = some '|' || (withoutEndBar? row).isSome
      let wide := 1 < width || (bordered && (line :: rows).all hasBar)
      let cells := splitRow bordered line
      let isLine := cells.flatten.all ("|:- ".toList.contains ·)
      if wide && cells.length = width && isLine then some ⟨bordered, cells.map alignment?⟩
      else none
  | _ => none

/-- A cell of a column. -/
def cell (tag : String) (column : Option String) (text : List Char) : Element :=
  let e := Element.ofText tag text
  match column with
  | some side => e.set "style" ("text-align: ".toList ++ side.toList ++ [';'])
  | none => e

/-- A row of cells, as many as there are columns. -/
def row (shape : Shape) (tag : String) (text : List Char) : Element :=
  let cells := splitRow shape.bordered (trimSpaces text)
  let texts := cells.map trimSpaces ++ List.replicate (shape.columns.length - cells.length) []
  (List.zipWith (cell tag) shape.columns texts).foldl Element.add (.bare "tr")

/-- The element of a table. A table without rows gets an empty one. -/
def element (shape : Shape) (block : List Char) : Element :=
  let lines := linesOf block
  let head := (Element.bare "thead").add (row shape "th" (lines.headD []))
  let emptyRow := (shape.columns.map fun _ => Element.bare "td").foldl Element.add (.bare "tr")
  let rows := match lines.drop 2 with
    | [] => [emptyRow]
    | rows => rows.map (row shape "td")
  ((Element.bare "table").add head).add (rows.foldl Element.add (.bare "tbody"))

end BlogSnapshot.Markdown.Table
