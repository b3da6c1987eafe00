import BlogSnapshot.Html.Element
import BlogSnapshot.Html.Reference.Names

/-! Character references: an ampersand and a name or a number that stand for characters.
-/

namespace BlogSnapshot.Html

/-- The value of a hexadecimal digit. -/
def hexValue? (c : Char) : Option Nat :=
  if c.isDigit then some (c.toNat - 48)
  else if 'a' ≤ c && c ≤ 'f' then some (c.toNat - 87)
  else if 'A' ≤ c && c ≤ 'F' then some (c.toNat - 55)
  else none

/-- The number that digits denote in a base. -/
def numberOf (base : Nat) (digits : List Char) : Nat :=
  digits.foldl (fun n d => base * n + (hexValue? d).getD 0) 0

/-- Numbers of the upper controls stand for the characters of an older code page. -/
def codePageChars : List Nat :=
  [
    0x20ac, 0x81, 0x201a, 0x192, 0x201e, 0x2026, 0x2020, 0x2021, 0x2c6, 0x2030, 0x160, 0x2039,
    0x152, 0x8d, 0x17d, 0x8f, 0x90, 0x2018, 0x2019, 0x201c, 0x201d, 0x2022, 0x2013, 0x2014,
    0x2dc, 0x2122, 0x161, 0x203a, 0x153, 0x9d, 0x17e, 0x178
  ]

/-- The character of a number: nothing, half characters and numbers past the last character
stand for the replacement character.
-/
def charOfNumber (n : Nat) : Char :=
  if n = 0 || n > 0x10ffff || (0xd800 ≤ n && n ≤ 0xdfff) then replacementChar
  else if 0x80 ≤ n && n ≤ 0x9f then Char.ofNat (codePageChars.getD (n - 0x80) n)
  else Char.ofNat n

/-- Reads digits of a base and a semicolon that may follow; also the number of characters. -/
def readNumber? (base : Nat) (isDigit : Char → Bool) (s : List Char)
    : Option (List Char × Nat) :=
  match s.takeWhile isDigit with
  | [] => none
  | digits =>
      let closed := (s.drop digits.length).head? = some ';'
      some
        ([charOfNumber (numberOf base digits)], digits.length + if closed then 1 else 0)

/-- The longest start of a word that is a name without semicolon. -/
def bareStart? (word : List Char) : Nat → Option (List Char)
  | 0 => none
  | n + 1 =>
      let start := word.take (n + 1)
      if isBareReference start then some start else bareStart? word n

/-- Reads a name. A name without semicolon does not count in a value when a letter, a digit or
an equals sign follows it.
-/
def readName? (inValue : Bool) (s : List Char) : Option (List Char × Nat) :=
  let word := s.takeWhile Char.isAlphanum
  let whole :=
    if (s.drop word.length).head? = some ';' then namedReference? word else none
  match whole with
  | some chars => some (chars, word.length + 1)
  | none => do
      let start ← bareStart? word (min word.length 32)
      let next := (s.drop start.length).head?
      let extended := next.any fun c => c = '=' || c.isAlphanum
      if inValue && extended then none
      else (namedReference? start).map fun chars => (chars, start.length)

/-- The characters of the reference after an ampersand, and how many characters it takes; nothing
if there is no reference.
-/
def reference? (inValue : Bool) : List Char → Option (List Char × Nat)
  | '#' :: 'x' :: s => (readNumber? 16 isHex s).map fun (chars, n) => (chars, n + 2)
  | '#' :: 'X' :: s => (readNumber? 16 isHex s).map fun (chars, n) => (chars, n + 2)
  | '#' :: s => (readNumber? 10 Char.isDigit s).map fun (chars, n) => (chars, n + 1)
  | s => readName? inValue s
where
  isHex (c : Char) : Bool := (hexValue? c).isSome

/-- A text with its references replaced; `skip` characters belong to the last one. -/
def resolveFrom (inValue : Bool) : Nat → List Char → List Char
  | _, [] => []
  | skip + 1, _ :: rest => resolveFrom inValue skip rest
  | 0, c :: rest =>
      if c = '&' then
        match reference? inValue rest with
        | some (chars, n) => chars ++ resolveFrom inValue n rest
        | none => c :: resolveFrom inValue 0 rest
      else c :: resolveFrom inValue 0 rest

/-- A text with its references replaced. -/
def resolveReferences (inValue : Bool) (s : List Char) : List Char :=
  resolveFrom inValue 0 s

end BlogSnapshot.Html
