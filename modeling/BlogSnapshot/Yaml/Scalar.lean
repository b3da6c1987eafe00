import BlogSnapshot.Text.Blank
import BlogSnapshot.Text.DecimalDigit
import BlogSnapshot.Text.Lowercase
import BlogSnapshot.Text.Split
import BlogSnapshot.Yaml.Fault
import BlogSnapshot.Yaml.Schema
import BlogSnapshot.Yaml.Value

/-! The values that scalars with explicit tags spell: truth values, integers, doubles, bytes and
timestamps.
-/

namespace BlogSnapshot.Yaml.Scalar

open Text

/-- Spaces of ASCII that are dropped around a number. -/
def isAsciiSpace (c : Char) : Bool :=
  c = ' ' || ('\t' ≤ c && c ≤ '\r')

/-- A text with decimal digits of every script as ASCII digits. If it holds other characters than
ASCII, its blanks beyond ASCII are spaces and it ends with the first character of another kind.
-/
def numeral (s : List Char) : List Char :=
  if s.all fun c => c.toNat < 0x80 then s
  else
    let known := s.takeWhile fun c =>
      c.toNat < 0x7f || isBlank c || isDecimalDigit c
    let ascii (c : Char) : Char :=
      if c.toNat < 0x7f then c
      else if isBlank c then ' '
      else Char.ofNat (48 + (decimalValue? c).getD 0)
    known.map ascii ++ (if known.length < s.length then ['?'] else [])

/-- The text without ASCII spaces around it. -/
def trimAscii (s : List Char) : List Char :=
  dropRightWhile isAsciiSpace (s.dropWhile isAsciiSpace)

/-- The value of a digit in bases up to 36. -/
def digitIn? (base : Nat) (c : Char) : Option Nat :=
  let value :=
    if c.isDigit then c.toNat - 48
    else if 'a' ≤ c && c ≤ 'z' then c.toNat - 87
    else if 'A' ≤ c && c ≤ 'Z' then c.toNat - 55
    else base
  if value < base then some value else none

/-- A sign at the head of a number. -/
def splitSign : List Char → Bool × List Char
  | '-' :: s => (true, s)
  | '+' :: s => (false, s)
  | s => (false, s)

/-- The digits without the letters that name their base. -/
def dropBaseMark (base : Nat) : List Char → List Char
  | '0' :: c :: s =>
      let isMark := (base = 16 && (c = 'x' || c = 'X')) || (base = 8 && (c = 'o' || c = 'O'))
        || (base = 2 && (c = 'b' || c = 'B'))
      if isMark then s else '0' :: c :: s
  | s => s

/-- The integer that a text spells in a base, with spaces around it and a sign. Too many digits
are refused in bases that are no power of two.
-/
def integer (base : Nat) (text : List Char) : Except ScalarFault Int :=
  let (negative, body) := splitSign (trimAscii (numeral text))
  let body := dropBaseMark base body
  let digits := body.takeWhile fun c => (digitIn? base c).isSome
  if base = 10 && maxDigits < digits.length then .error (.tooManyDigits digits.length)
  else if body.isEmpty || digits.length < body.length then
    .error (.notInteger base (String.ofList text))
  else
    let n := digits.foldl (fun n c => base * n + (digitIn? base c).getD 0) 0
    .ok (if negative then -(n : Int) else n)

/-- The sign of a scalar number and the text after it; the text cannot be empty. -/
def signed (s : List Char) : Except ScalarFault (Bool × List Char) :=
  match s with
  | [] => .error .emptyText
  | '-' :: s => .ok (true, s)
  | '+' :: s => .ok (false, s)
  | s => .ok (false, s)

/-- The number of places written between colons, each place counting sixty of the next. -/
def sexagesimal (parts : List Int) : Int :=
  parts.foldl (fun n d => 60 * n + d) 0

/-- An integer: binary, hexadecimal, octal after a zero, in places of sixty, or decimal. -/
def int (text : List Char) : Except ScalarFault Int := do
  let (negative, s) ← signed (text.filter (· ≠ '_'))
  let n ←
    match s with
    | ['0'] => pure 0
    | '0' :: 'b' :: s => integer 2 s
    | '0' :: 'x' :: s => integer 16 s
    | '0' :: _ => integer 8 s
    | [] => .error .emptyText
    | s =>
        if s.contains ':' then sexagesimal <$> (splitAt (· = ':') s).mapM (integer 10)
        else integer 10 s
  pure (if negative then -n else n)

/-- The exponent after the digits of a double. -/
def exponent? : List Char → Option Int
  | [] => some 0
  | e :: s =>
      if e ≠ 'e' && e ≠ 'E' then none
      else
        let (negative, ds) := splitSign s
        if ds.isEmpty || !ds.all Char.isDigit then none
        else
          let n := ofDigits (ds.map fun c => c.toNat - 48)
          some (if negative then -(n : Int) else n)

/-- The double that a text spells, with spaces around it and a sign. -/
def double (text : List Char) : Except ScalarFault Binary64 :=
  let (negative, body) := splitSign (trimAscii (numeral text))
  let word := lower body
  let refused : Except ScalarFault Binary64 := .error (.notFloat (String.ofList text))
  if word = "inf".toList || word = "infinity".toList then .ok (.infinite negative)
  else if word = "nan".toList then .ok .nan
  else
    let whole := body.takeWhile Char.isDigit
    let rest := body.dropWhile Char.isDigit
    let (fraction, rest) :=
      if rest.head? = some '.' then
        (rest.tail.takeWhile Char.isDigit, rest.tail.dropWhile Char.isDigit)
      else ([], rest)
    let digits := whole ++ fraction
    match exponent? rest with
    | none => refused
    | some e =>
        if digits.isEmpty then refused
        else
          let n := ofDigits (digits.map fun c => c.toNat - 48)
          .ok (.ofDecimal negative n (e - fraction.length))

/-- The sum of places of sixty, the last place first. -/
def doublePlaces (base : Nat) (sum : Binary64) : List Binary64 → Except ScalarFault Binary64
  | [] => .ok sum
  | d :: ds =>
      match Binary64.ofNat base with
      | .finite s m e => doublePlaces (60 * base) (sum.add (d.mul (.finite s m e))) ds
      | _ => .error .floatOverflow

/-- Whether a text spells the double that is no number after a point. -/
def spellsNoNumber (text : List Char) : Bool :=
  match signed (lower (text.filter (· ≠ '_'))) with
  | .ok (_, s) => s = ".nan".toList
  | .error _ => false

/-- A double: an infinity or no number after a point, places of sixty, or decimal. -/
def float (text : List Char) : Except ScalarFault Binary64 := do
  let (negative, s) ← signed (lower (text.filter (· ≠ '_')))
  let x ←
    if s = ".inf".toList then pure (.infinite false)
    else if s = ".nan".toList then pure .nan
    else if s.contains ':' then do
      let parts ← (splitAt (· = ':') s).mapM double
      doublePlaces 1 (.finite false 0 Binary64.minExponent) parts.reverse
    else double s
  pure (if negative then x.neg else x)

/-- A truth value: one of six words in any case. -/
def bool (text : List Char) : Except ScalarFault Bool :=
  let word := String.ofList (lower text)
  if word = "yes" || word = "true" || word = "on" then .ok true
  else if word = "no" || word = "false" || word = "off" then .ok false
  else .error (.unknownWord word)

/-- A date or a moment in the native form. -/
def timestamp (text : List Char) : Except ScalarFault Value :=
  match Calendar.nativeParts text with
  | none => .error .noTimestamp
  | some parts =>
      match parts.stamp with
      | .error fault => .error (.calendar fault)
      | .ok (.date d) => .ok (.date d)
      | .ok (.moment m) => .ok (.moment m)

/-- The value of a character of the base 64 alphabet. -/
def base64Value? (c : Char) : Option Nat :=
  if 'A' ≤ c && c ≤ 'Z' then some (c.toNat - 65)
  else if 'a' ≤ c && c ≤ 'z' then some (c.toNat - 71)
  else if c.isDigit then some (c.toNat + 4)
  else if c = '+' then some 62
  else if c = '/' then some 63
  else none

/-- What decoding has seen: how many characters of a group of four and their bits, the padding
since the last of them, and the bytes, last first.
-/
structure Base64State where
  filled : Nat := 0
  bits : Nat := 0
  pads : Nat := 0
  bytes : List UInt8 := []

/-- A character of the alphabet adds six bits, and each full byte is put out. -/
def Base64State.add (s : Base64State) (value : Nat) : Base64State :=
  let bits := s.bits * 64 + value
  match s.filled with
  | 0 => { s with filled := 1, bits := value, pads := 0 }
  | 1 => ⟨2, bits % 16, 0, UInt8.ofNat (bits / 16) :: s.bytes⟩
  | 2 => ⟨3, bits % 4, 0, UInt8.ofNat (bits / 4) :: s.bytes⟩
  | _ => ⟨0, 0, 0, UInt8.ofNat bits :: s.bytes⟩

/-- Decoding stops at the padding that completes a group; other characters are passed over. -/
def base64From (s : Base64State) : List Char → Except String (List UInt8)
  | [] =>
      if s.filled = 0 then .ok s.bytes.reverse
      else if s.filled = 1 then
        .error ("Invalid base64-encoded string: number of data characters ("
          ++ toString (s.bytes.length / 3 * 4 + 1) ++ ") cannot be 1 more than a multiple of 4")
      else .error "Incorrect padding"
  | c :: rest =>
      if c = '=' then
        if 2 ≤ s.filled then
          if 4 ≤ s.filled + s.pads + 1 then .ok s.bytes.reverse
          else base64From { s with pads := s.pads + 1 } rest
        else base64From s rest
      else match base64Value? c with
        | some value => base64From (s.add value) rest
        | none => base64From s rest

/-- The wording of the first run of characters that are not ASCII. -/
def nonAsciiText (text : List Char) (position : Nat) (run : List Char) : String :=
  "'ascii' codec can't encode character"
    ++ (if run.length = 1 then
        " '" ++ String.ofList (numericEscape (text.getD position ' ').toNat) ++ "' in position "
          ++ toString position
      else
        "s in position " ++ toString position ++ "-" ++ toString (position + run.length - 1))
    ++ ": ordinal not in range(128)"

/-- The bytes of a text in base 64. -/
def binary (text : List Char) : Except Problem (List UInt8) :=
  let isAscii (c : Char) : Bool := c.toNat < 0x80
  match text.findIdx? (!isAscii ·) with
  | some i =>
      .error (.nonAsciiBase64 (nonAsciiText text i ((text.drop i).takeWhile (!isAscii ·))))
  | none =>
      match base64From {} text with
      | .ok bytes => .ok bytes
      | .error reason => .error (.badBase64 reason)

end BlogSnapshot.Yaml.Scalar
