import BlogSnapshot.Text.Blank
import BlogSnapshot.Text.DecimalDigit
import BlogSnapshot.Text.Split

/-! The lines of a block, and what the start of a line makes of it.
-/

namespace BlogSnapshot.Markdown

open Text

/-- The lines of a text. -/
def linesOf (s : List Char) : List (List Char) :=
  splitAt (· = '\n') s

/-- The text of lines. -/
def ofLines (lines : List (List Char)) : List Char :=
  joinWith ['\n'] lines

/-- The blocks of a text: what stands between two line feeds in a row. -/
def blocksOf : List Char → List (List Char)
  | [] => [[]]
  | '\n' :: '\n' :: rest => [] :: blocksOf rest
  | c :: rest =>
      match blocksOf rest with
      | block :: blocks => (c :: block) :: blocks
      | [] => [[c]]

/-- The number of spaces at the start of a line. -/
def leadingSpaces (line : List Char) : Nat :=
  (line.takeWhile (· = ' ')).length

/-- Whether a line is indented by four spaces. -/
def isIndented (line : List Char) : Bool :=
  4 ≤ leadingSpaces line

/-- The lines of a text that are indented or blank, up to the first other line, without their
indentation; and the text from that line on.
-/
def splitIndented (s : List Char) : List Char × List Char :=
  let lines := linesOf s
  let mine := lines.takeWhile fun line => isIndented line || allBlank line
  let taken := mine.map fun line => if isIndented line then line.drop 4 else []
  (ofLines taken, ofLines (lines.drop mine.length))

/-- The text with every line that is indented so many times four spaces moved back. -/
def unindented (levels : Nat) (s : List Char) : List Char :=
  let width := 4 * levels
  ofLines ((linesOf s).map fun line =>
    if width ≤ leadingSpaces line then line.drop width else line)

/-- A line without the spaces at its start if these are at most three. -/
def atMargin? (line : List Char) : Option (List Char) :=
  let n := leadingSpaces line
  if n ≤ 3 then some (line.drop n) else none

/-- The text after the mark of an item: the spaces after it do not count, but there is one at
least.
-/
def afterItemMark? (s : List Char) : Option (List Char) :=
  if s.head? = some ' ' then some (s.dropWhile (· = ' ')) else none

/-- The text after a bullet. -/
def afterBullet? : List Char → Option (List Char)
  | c :: rest => if c = '*' || c = '+' || c = '-' then afterItemMark? rest else none
  | [] => none

/-- The text after a number and a point. -/
def afterNumber? (s : List Char) : Option (List Char) :=
  let digits := s.takeWhile isDecimalDigit
  match digits, s.drop digits.length with
  | _ :: _, '.' :: rest => afterItemMark? rest
  | _, _ => none

/-- The text after the mark of an item of either kind. -/
def afterMark? (s : List Char) : Option (List Char) :=
  (afterNumber? s).orElse fun _ => afterBullet? s

/-- Whether a line is a rule: three or more of the same marks, with at most two spaces between
them.
-/
def isRule (line : List Char) : Bool :=
  match atMargin? (dropRightWhile (· = ' ') line) with
  | some (c :: rest) =>
      "-_*".toList.contains c && 2 ≤ rest.count c && rest.all (fun d => d = c || d = ' ')
        && (cutAtText? [' ', ' ', ' '] rest).isNone
  | _ => false

/-- The level and the text of a heading that starts with number signs. Number signs at its end do
not count, unless a backslash is before them.
-/
def hashHeading? (line : List Char) : Option (Nat × List Char) :=
  let level := min (line.takeWhile (· = '#')).length 6
  if level = 0 then none else (title? (line.drop level)).map ((level, ·))
where
  title? : List Char → Option (List Char)
    | [] => some []
    | '\\' :: [] => none
    | '\\' :: c :: rest => (title? rest).map fun title => '\\' :: c :: title
    | c :: rest => if (c :: rest).all (· = '#') then some [] else (title? rest).map (c :: ·)

/-- Whether a line underlines a heading. -/
def isUnderline (line : List Char) : Bool :=
  let marks := line.takeWhile fun c => c = '=' || c = '-'
  !marks.isEmpty && (line.drop marks.length).all (· = ' ')

/-- The text of a line that is quoted: after a bracket and a space. -/
def quotedText? (line : List Char) : Option (List Char) := do
  match ← atMargin? line with
  | '>' :: ' ' :: rest => some rest
  | '>' :: rest => some rest
  | _ => none

end BlogSnapshot.Markdown
