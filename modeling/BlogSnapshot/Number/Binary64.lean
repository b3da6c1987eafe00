/-! Double-precision numbers in exact integer arithmetic: a finite one is a whole mantissa
below 2^53 times a power of two, and every operation rounds the exact result to the nearest
such number, a tie going to the even mantissa.
-/

namespace BlogSnapshot

/-- A double: not a number, an infinity, or `mantissa · 2 ^ exponent` with its sign. -/
inductive Binary64
  | nan
  | infinite (negative : Bool)
  | finite (negative : Bool) (mantissa : Nat) (exponent : Int)
  deriving DecidableEq, Repr

namespace Binary64

/-- The number of mantissa bits. -/
def precision : Nat := 53

/-- The least exponent of a mantissa. -/
def minExponent : Int := -1074

/-- The largest exponent of a mantissa. -/
def maxExponent : Int := 971

/-- The quotient rounded to the nearest whole number, a half going to the even neighbour. -/
def divNearestEven (n d : Nat) : Nat :=
  let q := n / d
  let r := n % d
  if 2 * r < d then q
  else if d < 2 * r then q + 1
  else if q % 2 = 0 then q
  else q + 1

/-- Numerator and denominator of `n / d · 2 ^ (-e)`. -/
def scaled (n d : Nat) (e : Int) : Nat × Nat :=
  if 0 ≤ e then (n, d * Nat.pow 2 e.toNat) else (n * Nat.pow 2 (-e).toNat, d)

/-- The exponent at which `n / d` has a mantissa of full precision, if the range allows it. -/
def exponentOf (n d : Nat) : Int :=
  let guess := (Nat.log2 n : Int) - Nat.log2 d - (precision - 1)
  let (sn, sd) := scaled n d guess
  max (if sn / sd < Nat.pow 2 (precision - 1) then guess - 1 else guess) minExponent

/-- The positive ratio `n / d` rounded to a double of the given sign. -/
def ofRatio (negative : Bool) (n d : Nat) : Binary64 :=
  if n = 0 then finite negative 0 minExponent
  else
    let e := exponentOf n d
    let (sn, sd) := scaled n d e
    let m := divNearestEven sn sd
    let (m, e) :=
      if m = Nat.pow 2 precision then (Nat.pow 2 (precision - 1), e + 1) else (m, e)
    if maxExponent < e then infinite negative else finite negative m e

/-- A double as a ratio of whole numbers; the sign is kept apart. -/
def ratio (mantissa : Nat) (exponent : Int) : Nat × Nat :=
  if 0 ≤ exponent then (mantissa * Nat.pow 2 exponent.toNat, 1)
  else (mantissa, Nat.pow 2 (-exponent).toNat)

/-- The number with the opposite sign. -/
def neg : Binary64 → Binary64
  | nan => nan
  | infinite s => infinite (!s)
  | finite s m e => finite (!s) m e

/-- The rounded product. -/
def mul : Binary64 → Binary64 → Binary64
  | nan, _ => nan
  | _, nan => nan
  | infinite s, infinite t => infinite (s != t)
  | infinite s, finite t m _ => if m = 0 then nan else infinite (s != t)
  | finite s m _, infinite t => if m = 0 then nan else infinite (s != t)
  | finite s m e, finite t n f =>
      let (p, q) := ratio (m * n) (e + f)
      ofRatio (s != t) p q

/-- The rounded sum; an exact zero is positive unless both terms are negative. -/
def add : Binary64 → Binary64 → Binary64
  | nan, _ => nan
  | _, nan => nan
  | infinite s, infinite t => if s = t then infinite s else nan
  | infinite s, finite .. => infinite s
  | finite .., infinite t => infinite t
  | finite s m e, finite t n f =>
      let low := min e f
      let a : Int := m * Nat.pow 2 (e - low).toNat
      let b : Int := n * Nat.pow 2 (f - low).toNat
      let sum := (if s then -a else a) + (if t then -b else b)
      let (p, q) := ratio sum.natAbs low
      ofRatio (if sum = 0 then s && t else sum < 0) p q

/-- The double nearest to a natural number. -/
def ofNat (n : Nat) : Binary64 :=
  ofRatio false n 1

/-- The double nearest to `digits · 10 ^ exponent`. Exponents far outside the range of doubles
are settled without computing the power.
-/
def ofDecimal (negative : Bool) (digits : Nat) (exponent : Int) : Binary64 :=
  let places : Int := Nat.log2 digits / 3 + 1
  if digits = 0 || exponent + places < -400 then finite negative 0 minExponent
  else if 400 < exponent then infinite negative
  else if 0 ≤ exponent then ofRatio negative (digits * Nat.pow 10 exponent.toNat) 1
  else ofRatio negative digits (Nat.pow 10 (-exponent).toNat)

/-- The whole part of a non-negative double; the other doubles give zero. -/
def floorNat : Binary64 → Nat
  | finite false m e => let (p, q) := ratio m e; p / q
  | _ => 0

/-- Numeric equality: the two zeros are equal and no number equals a value that is none. -/
def same : Binary64 → Binary64 → Bool
  | infinite s, infinite t => s = t
  | finite s m e, finite t n f => (m = 0 && n = 0) || (s = t && m = n && e = f)
  | _, _ => false

end Binary64

end BlogSnapshot
