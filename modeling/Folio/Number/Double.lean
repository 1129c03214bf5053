/-!
# Floating-point numbers of double precision

A double is a mantissa below `2 ^ 53` times a power of two from `-1074` to `971`. Decimal numbers
are read exactly, as the nearest double; of two that are equally near the one with the even mantissa
counts.
-/

namespace Folio.Number

/-- A number of double precision. -/
inductive Double where
  /-- The mantissa times a power of two; it has 53 bits unless the power is the least one. -/
  | finite (negative : Bool) (mantissa : Nat) (exponent : Int)
  | infinite (negative : Bool)
  | undefined
  deriving DecidableEq, Repr, Inhabited

/-- The quotient rounded to the nearest number, of two the even one. -/
def roundDiv (n d : Nat) : Nat :=
  let q := n / d
  let r := n % d
  if d < 2 * r ∨ (2 * r = d ∧ q % 2 = 1) then q + 1 else q

namespace Double

/-- The least mantissa that has 53 bits. -/
def leastMantissa : Nat := 0x10000000000000

/-- The least power of two. -/
def minExponent : Int := -1074

/-- The greatest power of two. -/
def maxExponent : Int := 971

/-- The number times a power of a base, as a fraction. -/
def scaled (n d base : Nat) (exponent : Int) : Nat × Nat :=
  if 0 ≤ exponent then (n * Nat.pow base exponent.toNat, d)
  else (n, d * Nat.pow base (-exponent).toNat)

/-- The double nearest to a positive fraction. -/
def ofFraction (negative : Bool) (n d : Nat) : Double :=
  let low : Int := (n.log2 : Int) - d.log2 - 53
  let (n', d') := scaled n d 2 (-low)
  let exponent := max (if n' / d' < 2 * leastMantissa then low else low + 1) minExponent
  let (n', d') := scaled n d 2 (-exponent)
  let mantissa := roundDiv n' d'
  let (mantissa, exponent) :=
    if mantissa = 2 * leastMantissa then (leastMantissa, exponent + 1) else (mantissa, exponent)
  if maxExponent < exponent then .infinite negative else .finite negative mantissa exponent

/-- The double nearest to digits times a power of ten. -/
def ofDecimal (negative : Bool) (digits : Nat) (exponent : Int) : Double :=
  let size := (Nat.toDigits 10 digits).length
  if digits = 0 ∨ size + exponent < -330 then .finite negative 0 minExponent
  else if 330 < size + exponent then .infinite negative
  else
    let (n, d) := scaled digits 1 10 exponent
    ofFraction negative n d

/-- The double with the other sign. -/
def neg : Double → Double
  | .finite negative mantissa exponent => .finite (!negative) mantissa exponent
  | .infinite negative => .infinite (!negative)
  | .undefined => .undefined

/-- The double nearest to a fraction of integers with a positive denominator. -/
def ofRatio (n : Int) (d : Nat) : Double :=
  if n = 0 then .finite false 0 minExponent else ofFraction (decide (n < 0)) n.natAbs d

/-- A finite value as a fraction. -/
def ratio (negative : Bool) (mantissa : Nat) (exponent : Int) : Int × Nat :=
  let (n, d) := scaled mantissa 1 2 exponent
  (if negative then -n else n, d)

/-- The sum, rounded once. -/
def add : Double → Double → Double
  | .finite n₁ m₁ e₁, .finite n₂ m₂ e₂ =>
    let (a, b) := ratio n₁ m₁ e₁
    let (c, d) := ratio n₂ m₂ e₂
    ofRatio (a * d + c * b) (b * d)
  | .infinite n₁, .infinite n₂ => if n₁ = n₂ then .infinite n₁ else .undefined
  | .undefined, _ | _, .undefined => .undefined
  | .infinite negative, _ | _, .infinite negative => .infinite negative

/-- The product with a positive natural number, which is rounded first. -/
def scale (x : Double) (factor : Nat) : Double :=
  match x, ofRatio factor 1 with
  | .finite negative mantissa exponent, .finite _ m e =>
    let (a, b) := ratio negative mantissa exponent
    let (c, d) := ratio false m e
    ofRatio (a * c) (b * d)
  | x, _ => x

/-- Whether the value is zero. -/
def isZero : Double → Bool
  | .finite _ mantissa _ => mantissa = 0
  | _ => false

/-- Whether the value equals an integer. -/
def equalsInt (x : Double) (n : Int) : Bool :=
  match x with
  | .finite negative mantissa exponent =>
    let (p, q) := scaled mantissa 1 2 exponent
    (n.natAbs * q = p) && (mantissa = 0 || negative = decide (n < 0))
  | _ => false

/-- Whether two values are the same; zero has no sign. -/
def equals (x y : Double) : Bool := (x.isZero && y.isZero) || x = y

end Double

end Folio.Number
