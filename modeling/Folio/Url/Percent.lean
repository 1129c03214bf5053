import Folio.Text.Entity

/-!
# Percent encoding

Characters that may not stand in a URL are written as percent signs with two hexadecimal digits for
each byte of their UTF-8 form. Encoding keeps what is encoded already; decoding leaves the encoded
form of delimiters alone, and shows bytes that are no UTF-8 as replacement characters.
-/

namespace Folio.Url

open Folio.Text

/-- The upper-case hexadecimal digit of a number below 16. -/
def upperHexDigit (n : Nat) : Char := (Nat.digitChar n).toUpper

/-- The encoded form of a byte. -/
def encodeByte (n : Nat) : List Char := ['%', upperHexDigit (n / 16), upperHexDigit (n % 16)]

/-- The bytes of a character in UTF-8. -/
def utf8Bytes (c : Char) : List Nat := (String.utf8EncodeChar c).map UInt8.toNat

/-- The encoded form of a character. -/
def encodeChar (c : Char) : List Char := (utf8Bytes c).flatMap encodeByte

/-- Characters that need no encoding anywhere in a URL. -/
def isPlain (c : Char) : Bool := c.isAlphanum || ";/?:@&=+$,-_.!~*'()#".toList.contains c

/-- Whether a text begins with a percent sign and two hexadecimal digits. -/
def startsEncoded : List Char → Bool
  | '%' :: a :: b :: _ => (hexDigit? a).isSome && (hexDigit? b).isSome
  | _ => false

/-- Encoding with the first `skip` characters kept. -/
def encodeFrom : Nat → List Char → List Char
  | _, [] => []
  | skip + 1, c :: cs => c :: encodeFrom skip cs
  | 0, c :: cs =>
    if startsEncoded (c :: cs) then c :: encodeFrom 2 cs
    else (if isPlain c then [c] else encodeChar c) ++ encodeFrom 0 cs

/-- Encode what may not stand in a URL. -/
def encode (cs : List Char) : List Char := encodeFrom 0 cs

/-- The bytes that the encoded part at the front of a text stands for, and the text behind it. -/
def encodedRun : List Char → List Nat × List Char
  | '%' :: a :: b :: cs =>
    match hexDigit? a, hexDigit? b with
    | some high, some low =>
      let (bytes, rest) := encodedRun cs
      ((high * 16 + low) :: bytes, rest)
    | _, _ => ([], '%' :: a :: b :: cs)
  | cs => ([], cs)

/-- The number of continuation bytes that a first byte announces. -/
def announced (byte : Nat) : Nat :=
  if byte / 32 = 6 then 1 else if byte / 16 = 14 then 2 else if byte / 8 = 30 then 3 else 0

/-- The character that bytes form in UTF-8, a first byte and continuation bytes. -/
def charOfBytes? (bytes : List Nat) : Option Char :=
  match bytes with
  | [] => none
  | first :: rest =>
    let bits := rest.foldl (fun n byte => n * 64 + byte % 64) (first % (64 >>> rest.length))
    let lowest := [0, 0x80, 0x800, 0x10000].getD rest.length 0
    if h : lowest ≤ bits ∧ bits.isValidChar then some (Char.ofNatAux bits h.2) else none

/-- The replacement character. -/
def replacement : Char := Char.ofNat 0xfffd

/-- Bytes as text, the first `skip` bytes passed over. ASCII characters in `keep` stay encoded. -/
def decodeBytesFrom (keep : List Char) : Nat → List Nat → List Char
  | _, [] => []
  | skip + 1, _ :: rest => decodeBytesFrom keep skip rest
  | 0, byte :: rest =>
    if byte < 0x80 then
      let c := Char.ofNat byte
      (if keep.contains c then encodeByte byte else [c]) ++ decodeBytesFrom keep 0 rest
    else
      let count := announced byte
      let tail := rest.take count
      if 0 < count ∧ tail.length = count ∧ tail.all fun b => b / 64 = 2 then
        (match charOfBytes? (byte :: tail) with
          | some c => [c]
          | none => List.replicate (count + 1) replacement) ++ decodeBytesFrom keep count rest
      else replacement :: decodeBytesFrom keep 0 rest

/-- Decoding with the first `skip` characters passed over. -/
def decodeFrom (keep : List Char) : Nat → List Char → List Char
  | _, [] => []
  | skip + 1, _ :: cs => decodeFrom keep skip cs
  | 0, c :: cs =>
    match (encodedRun (c :: cs)).1 with
    | [] => c :: decodeFrom keep 0 cs
    | bytes => decodeBytesFrom keep 0 bytes ++ decodeFrom keep (3 * bytes.length - 1) cs

/-- Decode what is encoded, but for the characters in `keep`. -/
def decode (keep cs : List Char) : List Char := decodeFrom keep 0 cs

end Folio.Url
