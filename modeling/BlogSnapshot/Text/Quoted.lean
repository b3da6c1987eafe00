import BlogSnapshot.Text.Printable

/-! Texts and byte strings quoted for a message. The quote is the single one unless only the
double one avoids an escape; characters that cannot be shown stand as escapes.
-/

namespace BlogSnapshot.Text

/-- The digit of a hexadecimal place, in small letters. -/
def hexDigit (n : Nat) : Char :=
  if n < 10 then Char.ofNat (48 + n) else Char.ofNat (87 + n)

/-- The low `width` hexadecimal places of a number. -/
def hexFixed : Nat → Nat → List Char
  | 0, _ => []
  | width + 1, n => hexFixed width (n / 16) ++ [hexDigit (n % 16)]

/-- The quote that encloses a text. -/
def quoteFor (s : List Char) : Char :=
  if s.contains '\'' && !s.contains '"' then '"' else '\''

/-- The shortest numeric escape of a character. -/
def numericEscape (n : Nat) : List Char :=
  if n < 0x100 then ['\\', 'x'] ++ hexFixed 2 n
  else if n < 0x10000 then ['\\', 'u'] ++ hexFixed 4 n
  else ['\\', 'U'] ++ hexFixed 8 n

/-- One character inside quotes. -/
def quotedChar (quote c : Char) : List Char :=
  if c = quote || c = '\\' then ['\\', c]
  else if c = '\n' then ['\\', 'n']
  else if c = '\r' then ['\\', 'r']
  else if c = '\t' then ['\\', 't']
  else if isPrintable c then [c]
  else numericEscape c.toNat

/-- The quoted form of a text. -/
def quoted (s : List Char) : List Char :=
  let quote := quoteFor s
  quote :: s.flatMap (quotedChar quote) ++ [quote]

/-- The quoted form of a byte string: as for text, but only ASCII is shown. -/
def quotedBytes (bytes : List UInt8) : List Char :=
  let s := bytes.map fun b => Char.ofNat b.toNat
  let quote := quoteFor s
  let shown (c : Char) : List Char :=
    if c.toNat < 0x7f then quotedChar quote c else numericEscape c.toNat
  ['b', quote] ++ s.flatMap shown ++ [quote]

end BlogSnapshot.Text

namespace String

/-- The quoted form of a string. -/
def quotedText (s : String) : String :=
  ofList (BlogSnapshot.Text.quoted s.toList)

end String
