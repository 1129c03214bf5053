/-!
# Punycode

Host names are written in ASCII. A label with other characters becomes the mark `xn--`, its ASCII
characters, and a code for where the others stand: each is found by counting through code points and
positions, and the counts are written as numbers of variable length whose digits adapt to their
size.
-/

namespace Folio.Url.Punycode

/-- The number of digits: letters and then decimal digits. -/
def base : Nat := 36

/-- The threshold of a digit at a position `k`, a multiple of the base, under a bias. -/
def threshold (k bias : Nat) : Nat := if k ≤ bias then 1 else if bias + 26 ≤ k then 26 else k - bias

/-- Halve a count by the steepness of adaptation until it is small; `fuel` bounds the steps. -/
def shrink : Nat → Nat → Nat → Nat
  | 0, _, k => k
  | fuel + 1, delta, k =>
    if 455 < delta then shrink fuel (delta / 35) (k + base) else k + base * delta / (delta + 38)

/-- The bias behind a count, with the number of characters placed so far. -/
def adapt (delta placed : Nat) (first : Bool) : Nat :=
  let delta := if first then delta / 700 else delta / 2
  let delta := delta + delta / placed
  shrink (delta + 1) delta 0

/-- The digit of a value. -/
def digit (n : Nat) : Char := Char.ofNat (if n < 26 then 'a'.toNat + n else '0'.toNat + (n - 26))

/-- The value of a digit. -/
def digitValue? (c : Char) : Option Nat :=
  if c.isLower then some (c.toNat - 'a'.toNat)
  else if c.isUpper then some (c.toNat - 'A'.toNat)
  else if c.isDigit then some (c.toNat - '0'.toNat + 26)
  else none

/-- A count as a number of variable length; `fuel` bounds the digits. -/
def encodeNumber : Nat → Nat → Nat → Nat → List Char
  | 0, _, _, _ => []
  | fuel + 1, n, k, bias =>
    let t := threshold k bias
    if n < t then [digit n]
    else
      digit (t + (n - t) % (base - t)) ::
        encodeNumber fuel ((n - t) / (base - t)) (k + base) bias

/-- What the encoder has reached: the characters placed, the bias and the running count. -/
structure Progress where
  placed : Nat
  bias : Nat
  delta : Nat
  output : List Char

/-- Walk over a label while code point `point` is placed. -/
def placePoint (point ascii : Nat) (progress : Progress) : List Nat → Progress
  | [] => progress
  | c :: rest =>
    if c < point then
      placePoint point ascii { progress with delta := progress.delta + 1 } rest
    else if c = point then
      let code := encodeNumber (progress.delta + 1) progress.delta base progress.bias
      placePoint point ascii
        { placed := progress.placed + 1
          bias := adapt progress.delta (progress.placed + 1) (progress.placed == ascii)
          delta := 0
          output := progress.output ++ code } rest
    else placePoint point ascii progress rest

/-- Place the code points of a label from the smallest on. -/
def placeAll (label : List Nat) (ascii : Nat) : List Nat → Nat → Progress → List Char
  | [], _, progress => progress.output
  | point :: points, current, progress =>
    let delta := progress.delta + (point - current) * (progress.placed + 1)
    let progress := placePoint point ascii { progress with delta } label
    placeAll label ascii points (point + 1) { progress with delta := progress.delta + 1 }

/-- The values of a list in ascending order, each once. -/
def ascending (points : List Nat) : List Nat :=
  (points.mergeSort (· ≤ ·)).foldr
    (fun point rest => if rest.head? = some point then rest else point :: rest) []

/-- The code of a label. -/
def encode (label : List Char) : List Char :=
  let points := label.map Char.toNat
  let ascii := label.filter fun c => c.toNat < 128
  let start := if ascii = [] then [] else ascii ++ ['-']
  let others := ascending (points.filter (128 ≤ ·))
  start ++ placeAll points ascii.length others 128 ⟨ascii.length, 72, 0, []⟩

/-- Read a number of variable length: its value and the text behind it. -/
def decodeNumber? (bias : Nat) : Nat → Nat → Nat → List Char → Option (Nat × List Char)
  | _, _, _, [] => none
  | n, weight, k, c :: cs =>
    match digitValue? c with
    | none => none
    | some value =>
      let t := threshold k bias
      let n := n + value * weight
      if value < t then some (n, cs) else decodeNumber? bias n (weight * (base - t)) (k + base) cs

/-- Insert the characters that a code names; `fuel` bounds their number. -/
def insertAll? : Nat → List Char → List Char → Nat → Nat → Nat → Option (List Char)
  | _, [], label, _, _, _ => some label
  | 0, _, _, _, _, _ => none
  | fuel + 1, code, label, point, position, bias =>
    match decodeNumber? bias 0 1 base code with
    | none => none
    | some (delta, code) =>
      let size := label.length + 1
      let place := position + delta
      let point := point + place / size
      let index := place % size
      if h : point.isValidChar then
        let label := label.take index ++ Char.ofNatAux point h :: label.drop index
        insertAll? fuel code label point (index + 1) (adapt delta size (position == 0))
      else none

/-- The label that a code stands for. -/
def decode? (code : List Char) : Option (List Char) :=
  let ascii := (code.reverse.dropWhile (· ≠ '-')).reverse
  let extended := code.drop ascii.length
  if ascii.all (·.toNat < 128) then
    insertAll? (extended.length + 1) extended ascii.dropLast 128 0 72
  else none

end Folio.Url.Punycode
