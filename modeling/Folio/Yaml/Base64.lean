/-!
# Base 64

Bytes written with 64 characters, six bits each, in groups of four. Other characters between them do
not count. A group may be shorter if marks fill it up, and ends the text then.
-/

namespace Folio.Yaml

/-- The six bits of a character. -/
def sextet? (c : Char) : Option Nat :=
  if 'A' ≤ c ∧ c ≤ 'Z' then some (c.toNat - 'A'.toNat)
  else if 'a' ≤ c ∧ c ≤ 'z' then some (c.toNat - 'a'.toNat + 26)
  else if c.isDigit then some (c.toNat - '0'.toNat + 52)
  else if c = '+' then some 62
  else if c = '/' then some 63
  else none

/-- The sextets of a text from a place in a group on, with `pads` marks behind the last one. Marks
count only behind two sextets of a group. -/
def sextetsFrom? (place pads : Nat) : List Char → Option (List Nat)
  | [] => if place = 0 then some [] else none
  | c :: cs =>
    match sextet? c with
    | some bits => (sextetsFrom? ((place + 1) % 4) 0 cs).map (bits :: ·)
    | none =>
      if c ≠ '=' || place < 2 then sextetsFrom? place pads cs
      else if 4 ≤ place + pads + 1 then some []
      else sextetsFrom? place (pads + 1) cs

/-- The bytes of groups of four sextets; the last group may be shorter. -/
def bytesOf : List Nat → List UInt8
  | a :: b :: c :: d :: rest =>
    let n := ((a * 64 + b) * 64 + c) * 64 + d
    .ofNat (n / 65536) :: .ofNat (n / 256 % 256) :: .ofNat (n % 256) :: bytesOf rest
  | [a, b, c] =>
    let n := (a * 64 + b) * 64 + c
    [.ofNat (n / 1024), .ofNat (n / 4 % 256)]
  | [a, b] => [.ofNat ((a * 64 + b) / 16)]
  | _ => []

/-- Read a text; all of it has to be ASCII. -/
def decodeBase64? (cs : List Char) : Option (List UInt8) :=
  if cs.all (·.val < 128) then (sextetsFrom? 0 0 cs).map bytesOf else none

end Folio.Yaml
