import BlogSnapshot.Number.Binary64

/-! The shortest decimal text of a double: the fewest digits that read back as the same number,
of these the nearest, in positional notation from 10^-4 up to 10^16.
-/

namespace BlogSnapshot.Binary64

/-- The base-ten digits of a number, without leading zeros. -/
def digitsOf (n : Nat) : List Char :=
  Nat.toDigits 10 n

/-- Whether `digits · 10 ^ exponent` reads back as the double `mantissa · 2 ^ power`. -/
def readsBack (mantissa : Nat) (power : Int) (digits : Nat) (exponent : Int) : Bool :=
  ofDecimal false digits exponent = finite false mantissa power

/-- The exponent of the leading decimal digit of the ratio `n / d`. -/
def decimalExponent (n d : Nat) : Int :=
  if d ≤ n then ((digitsOf (n / d)).length : Int) - 1
  else
    let k := (digitsOf (d / n)).length
    if d ≤ n * Nat.pow 10 (k - 1) then 1 - (k : Int) else -(k : Int)

/-- The neighbours of `n / d` on the grid of multiples of `10 ^ exponent`, nearest first. -/
def neighbours (n d : Nat) (exponent : Int) : List Nat :=
  let (p, q) :=
    if 0 ≤ exponent then (n, d * Nat.pow 10 exponent.toNat)
    else (n * Nat.pow 10 (-exponent).toNat, d)
  let low := p / q
  if 2 * (p % q) < q || (2 * (p % q) = q && low % 2 = 0) then [low, low + 1]
  else [low + 1, low]

/-- The shortest digits that read back, tried with `count` digits and then more. -/
def shortestFrom (mantissa : Nat) (power : Int) (lead : Int) : Nat → Nat → Nat × Int
  | 0, _ => (mantissa, 0)
  | fuel + 1, count =>
      let exponent := lead - count + 1
      let (n, d) := ratio mantissa power
      match (neighbours n d exponent).find? (readsBack mantissa power · exponent) with
      | some digits => (digits, exponent)
      | none => shortestFrom mantissa power lead fuel (count + 1)

/-- Digits and exponent of the shortest decimal of a positive double; 17 digits always read
back.
-/
def shortest (mantissa : Nat) (power : Int) : Nat × Int :=
  let (n, d) := ratio mantissa power
  shortestFrom mantissa power (decimalExponent n d) 17 1

/-- The digits without trailing zeros. -/
def significant (digits : Nat) : List Char :=
  let kept := ((digitsOf digits).reverse.dropWhile (· = '0')).reverse
  if kept.isEmpty then ['0'] else kept

/-- An exponent with its sign and at least two digits. -/
def exponentText (e : Int) : List Char :=
  let ds := digitsOf e.natAbs
  ['e', if e < 0 then '-' else '+'] ++ (if ds.length < 2 then '0' :: ds else ds)

/-- Digits and exponent as text, where `point` counts the digits before the decimal point. -/
def layout (ds : List Char) (point : Int) : List Char :=
  if point ≤ -4 || 16 < point then
    ds.take 1 ++ (if 1 < ds.length then '.' :: ds.drop 1 else []) ++ exponentText (point - 1)
  else if point ≤ 0 then ['0', '.'] ++ List.replicate (-point).toNat '0' ++ ds
  else if ds.length ≤ point then
    ds ++ List.replicate (point.toNat - ds.length) '0' ++ ['.', '0']
  else ds.take point.toNat ++ '.' :: ds.drop point.toNat

/-- The text of a double. -/
def text : Binary64 → String
  | nan => "nan"
  | infinite false => "inf"
  | infinite true => "-inf"
  | finite s m e =>
      let body :=
        if m = 0 then ['0', '.', '0']
        else
          let (digits, exponent) := shortest m e
          layout (significant digits) ((digitsOf digits).length + exponent)
      String.ofList (if s then '-' :: body else body)

end BlogSnapshot.Binary64
