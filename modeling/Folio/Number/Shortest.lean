import Folio.Number.Double

/-!
# Shortest decimal text

A double is written with the fewest digits that read back as the same double. With that many digits
one of the two neighbours of the exact value is taken, the nearer one if both read back.
-/

namespace Folio.Number

/-- A decimal number: an integer times a power of ten. -/
structure Decimal where
  digits : Nat
  exponent : Int
  deriving DecidableEq, Repr

/-- A positive value with the interval of the values that round to it, over one denominator. -/
structure Rounding where
  value : Nat
  low : Nat
  high : Nat
  denominator : Nat
  /-- Whether the ends of the interval round to the value too. -/
  closed : Bool

/-- The interval of a positive double. -/
def rounding (mantissa : Nat) (exponent : Int) : Rounding :=
  let below := if mantissa = Double.leastMantissa ∧ Double.minExponent < exponent then 1 else 2
  let (scale, denominator) := Double.scaled 1 4 2 exponent
  { value := 4 * mantissa * scale, low := (4 * mantissa - below) * scale
    high := (4 * mantissa + 2) * scale, denominator, closed := mantissa % 2 = 0 }

/-- Whether a number over the denominator times `factor` lies in the interval. -/
def Rounding.holds (interval : Rounding) (factor n : Nat) : Bool :=
  let low := interval.low * factor
  let high := interval.high * factor
  if interval.closed then low ≤ n && n ≤ high else low < n && n < high

/-- The decimal with a power of ten that reads back as the value, if there is one. -/
def Rounding.onGrid? (interval : Rounding) (exponent : Int) : Option Decimal :=
  let (unit, factor) := Double.scaled interval.denominator 1 10 exponent
  let value := interval.value * factor
  let below := value / unit
  let fits (n : Nat) : Bool := interval.holds factor (n * unit)
  let nearest := roundDiv value unit
  if fits nearest then some ⟨nearest, exponent⟩
  else if fits below then some ⟨below, exponent⟩
  else if fits (below + 1) then some ⟨below + 1, exponent⟩
  else none

/-- The power of ten of the first digit of a positive fraction. -/
def leadingExponent (n d : Nat) : Int :=
  if d ≤ n then (Nat.toDigits 10 (n / d)).length - 1
  else
    let size : Int := (Nat.toDigits 10 (d / n)).length
    let (n', d') := Double.scaled n d 10 size
    if d' * 10 ≤ n' then 1 - size else if d' ≤ n' then -size else -size - 1

/-- The shortest decimal that reads back as a positive double. -/
def shortest (mantissa : Nat) (exponent : Int) : Decimal :=
  let interval := rounding mantissa exponent
  let first := leadingExponent interval.value interval.denominator
  ((List.range 17).findSome? fun n : Nat => interval.onGrid? (first - n)).getD ⟨0, 0⟩

/-- A decimal with a point, or with an exponent if its first digit stands far from the point. -/
def Decimal.toText (decimal : Decimal) : String :=
  let all := Nat.toDigits 10 decimal.digits
  let digits := (all.reverse.dropWhile (· = '0')).reverse
  let first : Int := decimal.exponent + all.length - 1
  if first < -4 ∨ 16 ≤ first then
    let fraction := if digits.length ≤ 1 then [] else '.' :: digits.drop 1
    let power := Nat.toDigits 10 first.natAbs
    .ofList (digits.take 1 ++ fraction ++ ['e', if first < 0 then '-' else '+'] ++
      List.replicate (2 - power.length) '0' ++ power)
  else if first < 0 then
    .ofList ("0.".toList ++ List.replicate (first.natAbs - 1) '0' ++ digits)
  else
    let whole := first.toNat + 1
    let front := digits.take whole ++ List.replicate (whole - digits.length) '0'
    let behind := digits.drop whole
    .ofList (front ++ '.' :: if behind = [] then ['0'] else behind)

/-- A double as text: the shortest digits, and a word for what is no finite number. -/
def Double.toText : Double → String
  | .undefined => "nan"
  | .infinite negative => if negative then "-inf" else "inf"
  | .finite negative mantissa exponent =>
    (if negative then "-" else "") ++
      if mantissa = 0 then "0.0" else (shortest mantissa exponent).toText

end Folio.Number
