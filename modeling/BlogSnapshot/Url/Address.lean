import BlogSnapshot.Text.Split

/-! Literal addresses of hosts: four decimal numbers, eight groups of hexadecimal digits of
which one run of zeros may be left out, and addresses of a future version.
-/

namespace BlogSnapshot.Url

open Text

/-- Whether a character is a hexadecimal digit. -/
def isHexDigit (c : Char) : Bool :=
  c.isDigit || ('a' ≤ c && c ≤ 'f') || ('A' ≤ c && c ≤ 'F')

/-- A decimal number below 256 without leading zeros. -/
def isOctet (s : List Char) : Bool :=
  !s.isEmpty && s.length ≤ 3 && s.all Char.isDigit && (s = ['0'] || s.head? ≠ some '0')
    && s.foldl (fun n c => 10 * n + (c.toNat - 48)) 0 < 256

/-- Four octets with points between them. -/
def isDottedAddress (s : List Char) : Bool :=
  let parts := splitAt (· = '.') s
  parts.length = 4 && parts.all isOctet

/-- One to four hexadecimal digits. -/
def isGroup (s : List Char) : Bool :=
  !s.isEmpty && s.length ≤ 4 && s.all isHexDigit

/-- The last group may be written as a dotted address, which stands for two groups. -/
def expandDotted (parts : List (List Char)) : Option (List (List Char)) :=
  match parts.getLast? with
  | none => none
  | some last =>
      if last.contains '.' then
        if isDottedAddress last then some (parts.dropLast ++ [['0'], ['0']]) else none
      else some parts

/-- Whether the groups fill eight places. An inner empty group stands for at least one group of
zeros and occurs once; the first and the last group are empty only next to it.
-/
def groupsFill (parts : List (List Char)) : Bool :=
  let isGap (i : Nat) : Bool := 0 < i && i + 1 < parts.length && parts[i]? = some []
  match (List.range parts.length).filter isGap with
  | [] => parts.length = 8 && parts.all isGroup
  | [i] =>
      let before := parts.take i
      let after := parts.drop (i + 1)
      let before := if before = [[]] then [] else before
      let after := if after = [[]] then [] else after
      before.all isGroup && after.all isGroup && before.length + after.length < 8
  | _ => false

/-- An address of groups, with a scope after a percent sign. -/
def isGroupedAddress (s : List Char) : Bool :=
  let (address, scope) := cutAt (· = '%') s
  let scopeOk := match scope with
    | none => true
    | some id => !id.isEmpty && !id.contains '%'
  let parts := splitAt (· = ':') address
  scopeOk && 3 ≤ parts.length
    && match expandDotted parts with
      | none => false
      | some parts => parts.length ≤ 9 && groupsFill parts

/-- An address of a future version: a version in hexadecimal digits, a point, and more. -/
def isFutureAddress (s : List Char) : Bool :=
  match cutAt (· = '.') s with
  | ('v' :: version, some (_ :: _)) => !version.isEmpty && version.all isHexDigit
  | _ => false

end BlogSnapshot.Url
