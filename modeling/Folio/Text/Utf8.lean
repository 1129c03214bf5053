import Folio.Text.Quoted

/-!
# Reading UTF-8

Bytes are read as characters from the left. Where no character can be read, the fault names the
bytes that make it up: a byte that starts no character, a character cut short by another byte, or
one cut short by the end. Reading goes on behind a fault when every byte of it is kept as a raw
unit.
-/

namespace Folio.Text

/-- Why no character can be read. -/
inductive Utf8Fault where
  | invalidStart
  | invalidContinuation
  | unexpectedEnd
  deriving DecidableEq, Repr

/-- A character of some length in bytes, or a fault that covers some bytes. -/
inductive Utf8Step where
  | char (c : Char) (length : Nat)
  | fault (fault : Utf8Fault) (length : Nat)
  deriving Repr

/-- Whether a byte continues a character. -/
def isContinuation (b : UInt8) : Bool := 0x80 ≤ b && b < 0xc0

/-- The number of bytes that follow a first byte, the range of the second byte, and the bits that
the first one adds. -/
def leadByte? (b : UInt8) : Option (Nat × UInt8 × UInt8 × Nat) :=
  if b < 0xc2 then none
  else if b < 0xe0 then some (1, 0x80, 0xbf, b.toNat - 0xc0)
  else if b < 0xf0 then
    some (2, if b = 0xe0 then 0xa0 else 0x80, if b = 0xed then 0x9f else 0xbf, b.toNat - 0xe0)
  else if b < 0xf5 then
    some (3, if b = 0xf0 then 0x90 else 0x80, if b = 0xf4 then 0x8f else 0xbf, b.toNat - 0xf0)
  else none

/-- Read the bytes that follow a first byte; `count` of them are missing and `read` have been read.
-/
def readTail (bits : Nat) (read : Nat) : Nat → List UInt8 → Utf8Step
  | 0, _ => .char (Char.ofNat bits) read
  | _ + 1, [] => .fault .unexpectedEnd read
  | count + 1, b :: rest =>
    if isContinuation b then readTail (bits * 64 + (b.toNat - 0x80)) (read + 1) count rest
    else .fault .invalidContinuation read

/-- Read one character. -/
def readChar (b : UInt8) (rest : List UInt8) : Utf8Step :=
  if b < 0x80 then .char (Char.ofNat b.toNat) 1
  else
    match leadByte? b with
    | none => .fault .invalidStart 1
    | some (count, low, high, bits) =>
      match rest with
      | [] => .fault .unexpectedEnd 1
      | second :: _ =>
        if low ≤ second && second ≤ high then readTail bits 1 count rest
        else .fault .invalidContinuation 1

/-- Read text in which undecodable bytes stay as they are. The first `skip` bytes belong to a
character that has been read already. -/
def decodeRawFrom : Nat → List UInt8 → List RawUnit
  | _, [] => []
  | skip + 1, _ :: rest => decodeRawFrom skip rest
  | 0, b :: rest =>
    match readChar b rest with
    | .char c length => .char c :: decodeRawFrom (length - 1) rest
    | .fault _ _ => .ofByte b :: decodeRawFrom 0 rest

/-- Read text in which undecodable bytes stay as they are. -/
def decodeRaw (bytes : List UInt8) : List RawUnit := decodeRawFrom 0 bytes

/-- A fault in a text: what it is, where it begins, and how many bytes it covers. -/
structure DecodeError where
  fault : Utf8Fault
  position : Nat
  length : Nat
  /-- The first byte of the fault. -/
  byte : UInt8
  deriving DecidableEq, Repr

/-- The words for a fault. -/
def Utf8Fault.reason : Utf8Fault → String
  | .invalidStart => "invalid start byte"
  | .invalidContinuation => "invalid continuation byte"
  | .unexpectedEnd => "unexpected end of data"

/-- The wording of a decoding error. -/
def DecodeError.message (error : DecodeError) : String :=
  let place :=
    if error.length = 1 then
      "byte 0x" ++ hexPadded 2 error.byte.toNat ++ " in position " ++ toString error.position
    else
      "bytes in position " ++ toString error.position ++ "-" ++
        toString (error.position + error.length - 1)
  "'utf-8' codec can't decode " ++ place ++ ": " ++ error.fault.reason

/-- Read text from a position on, stopping at the first fault. -/
def decodeFrom (position : Nat) : Nat → List UInt8 → Except DecodeError (List Char)
  | _, [] => .ok []
  | skip + 1, _ :: rest => decodeFrom (position + 1) skip rest
  | 0, b :: rest =>
    match readChar b rest with
    | .char c length => (decodeFrom (position + 1) (length - 1) rest).map (c :: ·)
    | .fault fault length => .error ⟨fault, position, length, b⟩

/-- Read text, stopping at the first fault. -/
def decode (bytes : List UInt8) : Except DecodeError (List Char) := decodeFrom 0 0 bytes

/-- Line breaks of every platform as line feeds. -/
def universalNewlines : List Char → List Char
  | '\r' :: '\n' :: cs => '\n' :: universalNewlines cs
  | '\r' :: cs => '\n' :: universalNewlines cs
  | c :: cs => c :: universalNewlines cs
  | [] => []

end Folio.Text
