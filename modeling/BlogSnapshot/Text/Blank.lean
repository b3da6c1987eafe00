/-! Blank characters and trimming. A character is blank when Unicode calls it white space, or
when it is one of the four separators U+001C to U+001F.
-/

namespace BlogSnapshot.Text

/-- The blank characters, in code point order. -/
def blanks : List Char :=
  [
    '\t', '\n', '\x0b', '\x0c', '\r', '\x1c', '\x1d', '\x1e', '\x1f', ' ', '\u0085', '\u00a0',
    '\u1680', '\u2000', '\u2001', '\u2002', '\u2003', '\u2004', '\u2005', '\u2006', '\u2007',
    '\u2008', '\u2009', '\u200a', '\u2028', '\u2029', '\u202f', '\u205f', '\u3000'
  ]

/-- Letters, digits and the signs between them and the space end the search early. -/
def isBlank (c : Char) : Bool :=
  if c.toNat < 0x80 then c.toNat = 0x20 || (0x1c ≤ c.toNat && c.toNat ≤ 0x1f)
    || (9 ≤ c.toNat && c.toNat ≤ 13)
  else blanks.contains c

/-- The text without its leading blanks. -/
def trimLeft (s : List Char) : List Char :=
  s.dropWhile isBlank

/-- The text without the trailing characters that satisfy `p`. -/
def dropRightWhile (p : Char → Bool) (s : List Char) : List Char :=
  (s.reverse.dropWhile p).reverse

/-- The text without its trailing blanks. -/
def trimRight (s : List Char) : List Char :=
  dropRightWhile isBlank s

/-- The text without its leading and trailing blanks. -/
def trim (s : List Char) : List Char :=
  trimRight (trimLeft s)

/-- A text is blank when nothing is left of it after trimming. -/
def allBlank (s : List Char) : Bool :=
  s.all isBlank

end BlogSnapshot.Text

namespace String

/-- The string without its leading and trailing blanks. -/
def trimBlanks (s : String) : String :=
  ofList (BlogSnapshot.Text.trim s.toList)

/-- Whether trimming leaves nothing. -/
def isAllBlank (s : String) : Bool :=
  BlogSnapshot.Text.allBlank s.toList

end String
