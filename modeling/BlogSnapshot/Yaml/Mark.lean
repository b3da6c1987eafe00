/-! Positions in a YAML text and the excerpt that a message shows at a position.
-/

namespace BlogSnapshot.Yaml

/-- A position: characters from the start, and line and column counted from zero. -/
structure Mark where
  index : Nat := 0
  line : Nat := 0
  column : Nat := 0
  deriving DecidableEq, Repr

/-- Line ends other than the carriage return. -/
def isPlainBreak (c : Char) : Bool :=
  c = '\n' || c = '\u0085' || c = '\u2028' || c = '\u2029'

/-- Characters that end a line. -/
def isBreak (c : Char) : Bool :=
  isPlainBreak c || c = '\r'

/-- The position after a character, which depends on the next one for a carriage return. A byte
order mark takes no column.
-/
def Mark.step (m : Mark) (c : Char) (next : Option Char) : Mark :=
  if isPlainBreak c || (c = '\r' && next ≠ some '\n') then ⟨m.index + 1, m.line + 1, 0⟩
  else if c = '\ufeff' then { m with index := m.index + 1 }
  else { m with index := m.index + 1, column := m.column + 1 }

/-- The longest stretch of a line that an excerpt shows on either side of a position. -/
def excerptReach : Nat := 36

/-- A stretch of a line, cut to 32 characters and an ellipsis when it is too long. -/
def excerptSide (line : List Char) : List Char × List Char :=
  if excerptReach < line.length then (line.take 32, " ... ".toList) else (line, [])

/-- The line around a position, and a caret below it. -/
def Mark.excerpt (m : Mark) (text : List Char) : List Char :=
  let (head, headDots) := excerptSide (((text.take m.index).reverse).takeWhile (!isBreak ·))
  let (tail, tailDots) := excerptSide ((text.drop m.index).takeWhile (!isBreak ·))
  let indent := List.replicate 4 ' '
  indent ++ headDots ++ head.reverse ++ tail ++ tailDots
    ++ ['\n'] ++ indent ++ List.replicate (head.length + headDots.length) ' ' ++ ['^']

/-- The position and its excerpt as text. -/
def Mark.text (m : Mark) (source : List Char) : String :=
  "  in \"<unicode string>\", line " ++ toString (m.line + 1) ++ ", column "
    ++ toString (m.column + 1) ++ ":\n" ++ String.ofList (m.excerpt source)

end BlogSnapshot.Yaml
