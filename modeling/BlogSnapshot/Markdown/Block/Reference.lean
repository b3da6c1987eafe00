import BlogSnapshot.Markdown.Block.Line
import BlogSnapshot.Text.Lowercase

/-! Definitions of references: a label in brackets, an address and perhaps a title. Links refer to
them by their labels.
-/

namespace BlogSnapshot.Markdown

open Text

/-- What a label stands for. -/
structure Reference where
  address : List Char
  title : Option (List Char)
  deriving DecidableEq, Repr

/-- References by label, the last definition first. -/
abbrev References := List (List Char × Reference)

namespace Reference

/-- Reads a label in brackets and a colon. -/
def readLabel? (s : List Char) : Option (List Char × List Char) := do
  let s ← afterLead? ['['] (← atMargin? s)
  let label := s.takeWhile fun c => c ≠ '[' && c ≠ ']'
  let rest ← afterLead? [']', ':'] (s.drop label.length)
  pure (label, rest)

/-- Whether a text is at the end of a line. -/
def atLineEnd (s : List Char) : Bool :=
  s.isEmpty || s.head? = some '\n'

/-- Reads a title between quotes or parentheses that reaches to the end of its line. -/
def readTitle? (s : List Char) : Option (List Char × List Char) := do
  let line := s.takeWhile (· ≠ '\n')
  let text := dropRightWhile (· = ' ') line
  let first ← text.head?
  let last ← text.getLast?
  let closed := (first = '"' && last = '"') || (first = '\'' && last = '\'')
    || (first = '(' && last = ')')
  if closed && 2 ≤ text.length then some ((text.drop 1).dropLast, s.drop line.length) else none

/-- Reads what may follow an address: a title in the same line or the next one, or nothing. -/
def readEnd? (s : List Char) : Option (Option (List Char) × List Char) :=
  let s := s.dropWhile (· = ' ')
  let here (s : List Char) : Option (Option (List Char) × List Char) :=
    match readTitle? s with
    | some (title, rest) => some (some title, rest)
    | none => if atLineEnd s then some (none, s) else none
  let below? := (afterLead? ['\n'] s).bind fun s => here (s.dropWhile (· = ' '))
  below?.orElse fun _ => here s

/-- Reads an address of at most so many characters, the longest that leads to an end. -/
def readAddress? (s : List Char)
    : Nat → Option (List Char × Option (List Char) × List Char)
  | 0 => none
  | n + 1 =>
      match readEnd? (s.drop (n + 1)) with
      | some (title, rest) => some (s.take (n + 1), title, rest)
      | none => readAddress? s n

/-- Reads a definition at the start of a line. -/
def read? (s : List Char) : Option (List Char × Reference × List Char) := do
  let (label, rest) ← readLabel? s
  let rest := rest.dropWhile (· = ' ')
  let rest := ((afterLead? ['\n'] rest).getD rest).dropWhile (· = ' ')
  let (address, title, rest) ← readAddress? rest (rest.takeWhile (!isBlank ·)).length
  let address := dropRightWhile (· = '>') (address.dropWhile (· = '<'))
  pure (lower (trim label), ⟨address, title⟩, rest)

/-- Finds the first definition of a text: the text before it, the definition and the text after
it.
-/
def find? (lineStart : Bool) (s : List Char)
    : Option (List Char × List Char × Reference × List Char) :=
  match if lineStart then read? s else none, s with
  | some (label, reference, rest), _ => some ([], label, reference, rest)
  | none, [] => none
  | none, c :: rest =>
      (find? (c = '\n') rest).map fun (before, found) => (c :: before, found)

end Reference

end BlogSnapshot.Markdown
