import BlogSnapshot.Text.Blank
import BlogSnapshot.Text.Split

/-! Lists of attributes in braces: words, and names with values.
-/

namespace BlogSnapshot.Markdown

open Text

/-- A member of a list of attributes: a class, or an attribute and its value. -/
inductive Setting where
  | className (word : List Char)
  | value (name value : List Char)
  deriving DecidableEq, Repr

/-- Characters of a name. -/
def isNameChar (c : Char) : Bool :=
  c ≠ ' ' && c ≠ '=' && c ≠ '\x7d'

/-- The member with a name and a value. A point for a name makes the value a class. -/
def Setting.of (name value : List Char) : Setting :=
  if name = ['.'] then .className value else .value name value

/-- A value between quotes, without any further quotes at its ends, and the text after it. The
value stays in its line.
-/
def quotedValue? (quote : Char) (s : List Char) : Option (List Char × List Char) :=
  match cutAt (· = quote) s with
  | (value, some rest) => if value.contains '\n' then none else some (value, rest)
  | (_, none) => none

/-- A name and a value after an equals sign, and the text after them. -/
def namedValue? (name : List Char) : List Char → Option (Setting × List Char)
  | '"' :: s =>
      match quotedValue? '"' s with
      | some (value, rest) => some (.of name value, rest)
      | none => bareValue ('"' :: s)
  | '\'' :: s =>
      match quotedValue? '\'' s with
      | some (value, rest) => some (.of name value, rest)
      | none => bareValue ('\'' :: s)
  | s => bareValue s
where
  bareValue (s : List Char) : Option (Setting × List Char) :=
    match s.takeWhile isNameChar with
    | [] => none
    | value => some (.of name value, s.drop value.length)

/-- A word alone: a class after a point, an identity after a number sign, or an attribute that
has its name for its value.
-/
def wordSetting : List Char → Setting
  | '.' :: word => .className word
  | '#' :: word => .value "id".toList word
  | word => .value word word

/-- Reads a member of a list; a space is none. Nothing if there is neither. -/
def readSetting? : List Char → Option (Option Setting × List Char)
  | ' ' :: rest => some (none, rest)
  | s =>
      match s.takeWhile isNameChar with
      | [] => none
      | name =>
          let rest := s.drop name.length
          let named? := do namedValue? name (← afterLead? ['='] rest)
          match named? with
          | some (setting, rest) => some (some setting, rest)
          | none => some (some (wordSetting name), rest)

/-- Reads at most `fuel` members and spaces, and gives the text that is left. -/
def readSettings : Nat → List Char → List Setting × List Char
  | 0, s => ([], s)
  | fuel + 1, s =>
      match readSetting? s with
      | some (setting?, rest) =>
          let (settings, left) := readSettings fuel rest
          (setting?.toList ++ settings, left)
      | none => ([], s)

/-- The members of a list, and what is left from the first closing brace on if the list could
not be read to its end.
-/
def settingsOf (s : List Char) : List Setting × List Char :=
  let (settings, left) := readSettings s.length s
  (settings, left.dropWhile (· ≠ '\x7d'))

end BlogSnapshot.Markdown
