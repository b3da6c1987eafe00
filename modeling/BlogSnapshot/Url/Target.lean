import BlogSnapshot.Text.Blank
import BlogSnapshot.Text.DecimalDigit
import BlogSnapshot.Text.Utf8
import BlogSnapshot.Url.Parts

/-! What a link leads to, by the rules of browsers: somewhere relative to the page, to an address
with a scheme, or nowhere since the address is malformed.
-/

namespace BlogSnapshot.Url

open Text

/-- What a link leads to. -/
inductive Target where
  | relative
  | absolute (scheme : String)
  | malformed
  deriving DecidableEq, Repr

/-- Schemes whose addresses always have a host. -/
def hostedSchemes : List String :=
  ["http", "https", "ws", "wss", "ftp"]

/-- The text of an address: without controls and spaces around it, and without line ends and
tabs anywhere.
-/
def addressText (link : List Char) : List Char :=
  ((dropRightWhile isControlOrSpace link).dropWhile isControlOrSpace).filter (!isLayout ·)

/-- Characters that no host may have. -/
def isForbiddenInHost (c : Char) : Bool :=
  " #/:<>?@[\\]^|".toList.contains c || c = '\x00' || isLayout c

/-- Characters that no host name may have; controls, spaces and the replacement character count
among them.
-/
def isForbiddenInName (c : Char) : Bool :=
  isForbiddenInHost c || c.toNat ≤ 0x20 || c = '%' || isBlank c || c = '\uFFFD'
    || (0x7f ≤ c.toNat && c.toNat ≤ 0x9f)

/-- The value of a hexadecimal digit. -/
def hexDigit? (c : Char) : Option Nat :=
  if c.isDigit then some (c.toNat - 48)
  else if isHexDigit c then some (c.toLower.toNat - 87)
  else none

/-- The bytes of a text in which a percent sign and two hexadecimal digits stand for a byte. -/
def percentDecoded : List Char → List Nat
  | '%' :: a :: b :: rest =>
      match hexDigit? a, hexDigit? b with
      | some high, some low => (16 * high + low) :: percentDecoded rest
      | _, _ => 0x25 :: percentDecoded (a :: b :: rest)
  | c :: rest => (String.singleton c).toUTF8.toList.map (·.toNat) ++ percentDecoded rest
  | [] => []

/-- The base of a number inside a host and its digits. -/
def hostDigits : List Char → Nat × List Char
  | '0' :: 'x' :: digits => (16, digits)
  | '0' :: 'X' :: digits => (16, digits)
  | '0' :: d :: digits => (8, d :: digits)
  | digits => (10, digits)

/-- A number inside a host: hexadecimal after `0x`, octal after a zero, else decimal. -/
def hostNumber? (s : List Char) : Option Nat :=
  let (base, digits) := hostDigits s
  let values := digits.mapM hexDigit?
  if s.isEmpty then none
  else match values with
    | some values =>
        if values.all (· < base) then some (values.foldl (fun n d => base * n + d) 0)
        else none
    | none => none

/-- The parts of a host between its points; a point at the end adds none. -/
def hostParts (host : List Char) : List (List Char) :=
  let parts := splitAt (· = '.') host
  if parts.getLast? = some [] then parts.dropLast else parts

/-- Whether a host has to be a numeric address: its last part is a number. -/
def endsInNumber (host : List Char) : Bool :=
  match (hostParts host).getLast? with
  | some last => (!last.isEmpty && last.all Char.isDigit) || (hostNumber? last).isSome
  | none => false

/-- A numeric address: up to four numbers, of which the last fills the bytes that are left. -/
def isNumericAddress (host : List Char) : Bool :=
  let parts := hostParts host
  match parts.mapM hostNumber? with
  | some numbers =>
      parts.length ≤ 4 && numbers.dropLast.all (· < 256)
        && numbers.getLast?.any (· < Nat.pow 256 (5 - parts.length))
  | none => false

/-- A host in brackets. -/
def isBracketedAddress (host : List Char) : Bool :=
  host.head? = some '[' && host.getLast? = some ']'
    && let inner := (host.drop 1).dropLast
      isGroupedAddress inner && !inner.contains '%'

/-- A host of an address that needs one. -/
def isHost (host : List Char) : Bool :=
  if host.head? = some '[' then isBracketedAddress host
  else match decodeUtf8 (percentDecoded host) with
    | .ok name =>
        !name.isEmpty && !name.any isForbiddenInName
          && (!endsInNumber name || isNumericAddress name)
    | .error _ => false

/-- A host of any other address. -/
def isOpaqueHost (host : List Char) : Bool :=
  if host.head? = some '[' then isBracketedAddress host else !host.any isForbiddenInHost

/-- The host at the start of a text and the text after it. A colon ends it outside brackets. -/
def splitHost (isEnd : Char → Bool) (bracketed : Bool) : List Char → List Char × List Char
  | [] => ([], [])
  | c :: rest =>
      if isEnd c || (c = ':' && !bracketed) then ([], c :: rest)
      else
        let bracketed := c = '[' || (bracketed && c ≠ ']')
        let (host, after) := splitHost isEnd bracketed rest
        (c :: host, after)

/-- A port: nothing, or a number of two bytes up to the path. -/
def isPort (s : List Char) : Bool :=
  let digits := s.takeWhile Char.isDigit
  let next := (s.drop digits.length).head?
  ofDigits (digits.map fun c => c.toNat - 48) < 65536
    && (next.isNone || next.any ("/\\?#".toList.contains ·))

/-- The authority at the start of a text: a user and an at sign, a host and a port. Without a
host there is neither a user nor a port.
-/
def isAuthority (hosted : Bool) (s : List Char) : Bool :=
  let isEnd (c : Char) : Bool := "/?#".toList.contains c || (hosted && c = '\\')
  let authority := s.takeWhile (!isEnd ·)
  let hasUser := authority.contains '@'
  let server := afterLast (· = '@') authority
  let (host, port) := splitHost isEnd false server
  let hasPort := port.head? = some ':'
  if host.isEmpty then !hosted && !hasPort && (!hasUser || s = ['@'])
  else (if hosted then isHost host else isOpaqueHost host) && (!hasPort || isPort (port.drop 1))

/-- An address after its scheme. -/
def isAddress (scheme : String) (rest : List Char) : Bool :=
  if hostedSchemes.contains scheme then
    isAuthority true (rest.dropWhile fun c => c = '/' || c = '\\')
  else match rest with
    | '/' :: '/' :: rest => isAuthority false rest
    | _ => true

/-- What a link leads to. -/
def Target.of (link : List Char) : Target :=
  match splitScheme (addressText link) with
  | ([], _) => .relative
  | (scheme, rest) =>
      let scheme := String.ofList scheme
      if isAddress scheme rest then .absolute scheme else .malformed

end BlogSnapshot.Url
