import BlogSnapshot.Yaml.Error

/-! A cursor: the text that is still to be read and the position it starts at.
-/

namespace BlogSnapshot.Yaml

/-- The rest of a text and its position. -/
structure Cursor where
  rest : List Char
  mark : Mark := {}
  deriving DecidableEq, Repr

/-- The characters allowed in a YAML text. -/
def isAcceptable (c : Char) : Bool :=
  c = '\t' || c = '\n' || c = '\r' || (' ' ≤ c && c ≤ '~') || c = '\u0085'
    || ('\u00a0' ≤ c && c ≤ '\ud7ff') || ('\ue000' ≤ c && c ≤ '\ufffd') || 0x10000 ≤ c.toNat

/-- Whether there is no character or one that satisfies `p`. -/
def endOr (p : Char → Bool) (c : Option Char) : Bool :=
  c.all p

/-- The end of the text or of a line. -/
def isLineEnd (c : Option Char) : Bool :=
  endOr isBreak c

/-- The end of the text or of a line, or a space. -/
def isSpaceEnd (c : Option Char) : Bool :=
  endOr (fun c => c = ' ' || isBreak c) c

/-- The end of the text or of a line, a space or a tab. -/
def isBlankEnd (c : Option Char) : Bool :=
  endOr (fun c => c = ' ' || c = '\t' || isBreak c) c

/-- Characters of names of anchors, directives and tag handles. -/
def isNameChar (c : Char) : Bool :=
  c.isAlphanum || c = '-' || c = '_'

/-- Whether a character is a hexadecimal digit. -/
def isHex (c : Char) : Bool :=
  c.isDigit || ('a' ≤ c && c ≤ 'f') || ('A' ≤ c && c ≤ 'F')

/-- The value of a hexadecimal digit. -/
def hexValue (c : Char) : Nat :=
  if c.isDigit then c.toNat - 48 else if 'a' ≤ c then c.toNat - 87 else c.toNat - 55

namespace Cursor

/-- The character `n` places ahead. -/
def ahead (c : Cursor) (n : Nat) : Option Char :=
  c.rest[n]?

/-- The next character. -/
def peek (c : Cursor) : Option Char :=
  c.rest.head?

/-- Past the next character. -/
def next (c : Cursor) : Cursor :=
  match c.rest with
  | [] => c
  | d :: rest => ⟨rest, c.mark.step d rest.head?⟩

/-- Past the next `n` characters. -/
def skip (c : Cursor) : Nat → Cursor
  | 0 => c
  | n + 1 => c.next.skip n

/-- The characters that satisfy `p`, and the cursor after them. -/
def spanFrom (p : Char → Bool) (mark : Mark) : List Char → List Char × Cursor
  | [] => ([], ⟨[], mark⟩)
  | d :: rest =>
      if p d then
        let (ds, c) := spanFrom p (mark.step d rest.head?) rest
        (d :: ds, c)
      else ([], ⟨d :: rest, mark⟩)

def span (c : Cursor) (p : Char → Bool) : List Char × Cursor :=
  spanFrom p c.mark c.rest

/-- Past the characters that satisfy `p`. -/
def skipWhile (c : Cursor) (p : Char → Bool) : Cursor :=
  (c.span p).2

def skipSpaces (c : Cursor) : Cursor :=
  c.skipWhile (· = ' ')

/-- The rest of the line. -/
def skipLine (c : Cursor) : Cursor :=
  c.skipWhile (!isBreak ·)

/-- Past a comment, if one starts here. -/
def skipComment (c : Cursor) : Cursor :=
  if c.peek = some '#' then c.skipLine else c

/-- A line end as text, and the cursor after it. Two separators of Unicode stay as they are and
the other line ends become a line feed.
-/
def lineBreak (c : Cursor) : List Char × Cursor :=
  match c.rest with
  | '\r' :: '\n' :: _ => (['\n'], c.skip 2)
  | d :: _ =>
      if d = '\r' || d = '\n' || d = '\u0085' then (['\n'], c.next)
      else if isBreak d then ([d], c.next)
      else ([], c)
  | [] => ([], c)

/-- Whether a line of three dashes or points starts here. -/
def atSeparator (c : Cursor) : Bool :=
  (c.rest.take 3 = ['-', '-', '-'] || c.rest.take 3 = ['.', '.', '.']) && isBlankEnd (c.ahead 3)

/-- Fails with a problem at the cursor. -/
def fail {α : Type} (c : Cursor) (activity : Activity) (start : Mark) (problem : Problem)
    : Except Error α :=
  .error (.at (some (activity, some start)) problem c.mark)

/-- Fails because something else should have stood at the cursor. -/
def expects {α : Type} (c : Cursor) (activity : Activity) (start : Mark) (what : Expected)
    : Except Error α :=
  c.fail activity start (.expected what c.peek)

end Cursor

end BlogSnapshot.Yaml
