/-!
# Problems of YAML documents

What keeps a text from being read as a document, or a document from being a value.
-/

namespace Folio.Yaml

/-- A part of a date or time that is out of range. -/
inductive DatePart where
  | year | month | day | hour | minute | second
  /-- An offset from universal time of a day or more; `minutes` is the offset. -/
  | offset (minutes : Int)
  deriving DecidableEq, Repr

/-- A kind of collection that cannot be part of a key. -/
inductive CollectionKind where
  | sequence | mapping | ordered | set
  deriving DecidableEq, Repr

/-- Why a text gives no value. -/
inductive Problem where
  /-- A character that may not occur in a document. -/
  | badCharacter
  /-- No lexeme can begin or go on here. -/
  | badLexeme
  /-- A lexeme that does not fit between its neighbours. -/
  | badStructure
  /-- An escape for a code point that is out of range. -/
  | badCodePoint
  /-- An escape for a code point that does not even fit into 31 bits. -/
  | hugeCodePoint
  /-- A version of the format that is neither 1.1 nor 1.2; the major number is one. -/
  | unknownVersion (minor : Nat)
  | unknownAlias
  | unknownTag
  /-- A node of a kind that its tag does not allow. -/
  | wrongKind
  | repeatedKey
  /-- A key that occurs twice in an ordered mapping. -/
  | repeatedOrderedKey
  /-- A mapping as a key. -/
  | badKey
  /-- A collection inside a sequence that is a key. -/
  | nestedKey (kind : CollectionKind)
  /-- A word that is no truth value, in lower case. -/
  | badTruth (word : String)
  | badDate (part : DatePart)
  /-- A date behind the last one that can be written. -/
  | lateDate
  | badInteger (base : Nat) (text : String)
  /-- An integer with more digits than are read. -/
  | longInteger (digits : Nat)
  | badNumber (text : String)
  /-- A number with several marks of an exponent. -/
  | manyExponents
  /-- A number without any character but underscores and a sign. -/
  | emptyNumber
  deriving DecidableEq, Repr

end Folio.Yaml
