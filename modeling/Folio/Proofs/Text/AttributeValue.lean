import Folio.Proofs.Text.Pieces
import Folio.Text.Entity

/-!
# Attribute values as HTML reads them

A quoted attribute value goes on to the next quote, and character references in it are resolved. A
reference begins with an ampersand and does not reach the next one, so a value is read piece by
piece. A semicolon ends a reference; numbers and the oldest names may do without, a name only if no
equals sign comes next.
-/

namespace Folio.Text

section Reading

/-- The names that HTML reads without a semicolon too. -/
def bareNames : List (List Char) :=
  ["AElig AMP Aacute Acirc Agrave Aring Atilde Auml COPY Ccedil ETH Eacute Ecirc Egrave",
    "Euml GT Iacute Icirc Igrave Iuml LT Ntilde Oacute Ocirc Ograve Oslash Otilde Ouml QUOT",
    "REG THORN Uacute Ucirc Ugrave Uuml Yacute aacute acirc acute aelig agrave amp aring",
    "atilde auml brvbar ccedil cedil cent copy curren deg divide eacute ecirc egrave eth",
    "euml frac12 frac14 frac34 gt iacute icirc iexcl igrave iquest iuml laquo lt macr micro",
    "middot nbsp not ntilde oacute ocirc ograve ordf ordm oslash otilde ouml para plusmn",
    "pound quot raquo reg sect shy sup1 sup2 sup3 szlig thorn times uacute ucirc ugrave uml",
    "uuml yacute yen yuml"].flatMap fun line => splitAt ' ' line.toList

/-- The characters that the numbers of some control characters stand for. -/
def remappedCodes : List (Nat × Nat) :=
  [(0x80, 0x20ac), (0x82, 0x201a), (0x83, 0x192), (0x84, 0x201e), (0x85, 0x2026), (0x86, 0x2020),
    (0x87, 0x2021), (0x88, 0x2c6), (0x89, 0x2030), (0x8a, 0x160), (0x8b, 0x2039), (0x8c, 0x152),
    (0x8e, 0x17d), (0x91, 0x2018), (0x92, 0x2019), (0x93, 0x201c), (0x94, 0x201d), (0x95, 0x2022),
    (0x96, 0x2013), (0x97, 0x2014), (0x98, 0x2dc), (0x99, 0x2122), (0x9a, 0x161), (0x9b, 0x203a),
    (0x9c, 0x153), (0x9e, 0x17e), (0x9f, 0x178)]

/-- The character that a number stands for. -/
def codeCharacter (code : Nat) : Char :=
  if code = 0 || !code.isValidChar then '\ufffd'
  else .ofNat ((remappedCodes.lookup code).getD code)

/-- A text without the semicolon in front. -/
def dropSemicolon (cs : List Char) : List Char := if cs.head? = some ';' then cs.tail else cs

/-- The reference by number at the front of a text, and what stands behind it. -/
def numberReference? (base : Nat) (isDigit : Char → Bool) (cs : List Char) :
    Option (List Char × List Char) :=
  let digits := cs.takeWhile isDigit
  if digits = [] then none
  else some ([codeCharacter (numberOf base digits)], dropSemicolon (cs.dropWhile isDigit))

/-- Whether a character is a digit to the base 16. -/
def isHexDigit (c : Char) : Bool := (hexDigit? c).isSome

/-- The reference by name at the front of a text, and what stands behind it. -/
def nameReference? (cs : List Char) : Option (List Char × List Char) :=
  let name := cs.takeWhile Char.isAlphanum
  let rest := cs.dropWhile Char.isAlphanum
  if rest.head? = some ';' then (namedReference? name).map (·, rest.tail)
  else if rest.head? ≠ some '=' ∧ bareNames.contains name then (namedReference? name).map (·, rest)
  else none

/-- The reference behind a number sign. -/
def codeReference? (cs : List Char) : Option (List Char × List Char) :=
  if cs.head? = some 'x' ∨ cs.head? = some 'X' then numberReference? 16 isHexDigit cs.tail
  else numberReference? 10 Char.isDigit cs

/-- The reference behind an ampersand: what it stands for, and what stands behind it. -/
def attributeReference? (cs : List Char) : Option (List Char × List Char) :=
  if cs.head? = some '#' then codeReference? cs.tail else nameReference? cs

/-- Read what stands between an ampersand and the next one. -/
def readReference (piece : List Char) : List Char :=
  match attributeReference? piece with
  | some (chars, rest) => chars ++ rest
  | none => '&' :: piece

/-- Resolve the references of a text. -/
def decodeValue (cs : List Char) : List Char :=
  match splitAt '&' cs with
  | [] => []
  | first :: pieces => first ++ pieces.flatMap readReference

/-- Read an attribute value up to the quote that ends it, and give what stands behind that. -/
def readValue (cs : List Char) : Option (List Char × List Char) :=
  match cutAt '\x22' cs with
  | (value, some behind) => some (decodeValue value, behind)
  | (_, none) => none

/-- A text that an attribute value may hold as it is. -/
structure IsVerbatim (cs : List Char) : Prop where
  no_quote : '\x22' ∉ cs
  decode_eq : decodeValue cs = cs

end Reading

section Hyphen

/-- Whether a reading goes on to a hyphen at most. -/
def StopsAtHyphen (read : List Char → Option (List Char × List Char)) : Prop :=
  ∀ s t, read (s ++ '-' :: t) = (read s).map fun found => (found.1, found.2 ++ '-' :: t)

variable {p : Char → Bool}

theorem takeWhile_append_hyphen (h : p '-' = false) (s t : List Char) :
    (s ++ '-' :: t).takeWhile p = s.takeWhile p := by
  induction s with
  | nil => rw [List.nil_append, List.takeWhile_cons_of_neg (by simp [h]), List.takeWhile_nil]
  | cons c s ih => rw [List.cons_append, List.takeWhile_cons, List.takeWhile_cons, ih]

theorem dropWhile_append_hyphen (h : p '-' = false) (s t : List Char) :
    (s ++ '-' :: t).dropWhile p = s.dropWhile p ++ '-' :: t := by
  induction s with
  | nil => rw [List.nil_append, List.dropWhile_cons_of_neg (by simp [h]), List.dropWhile_nil,
      List.nil_append]
  | cons c s ih =>
    rw [List.cons_append, List.dropWhile_cons, List.dropWhile_cons, ih]
    split <;> rfl

/-- Another sign comes first only if it did without the hyphen. -/
theorem head?_append_hyphen {c : Char} (hc : c ≠ '-') (s t : List Char) :
    (s ++ '-' :: t).head? = some c ↔ s.head? = some c := by
  cases s with
  | nil => exact iff_of_false (fun h => hc (Option.some.inj h).symm) nofun
  | cons d s => exact Iff.rfl

theorem tail_append_of_head? {s : List Char} {c : Char} (h : s.head? = some c) (t : List Char) :
    (s ++ t).tail = s.tail ++ t := by
  obtain ⟨rest, rfl⟩ := List.head?_eq_some_iff.mp h
  rfl

theorem dropSemicolon_append_hyphen (s t : List Char) :
    dropSemicolon (s ++ '-' :: t) = dropSemicolon s ++ '-' :: t := by
  simp only [dropSemicolon, head?_append_hyphen (c := ';') (by decide)]
  split
  next h => exact tail_append_of_head? h _
  next => rfl

theorem stopsAtHyphen_numberReference? (base : Nat) (h : p '-' = false) :
    StopsAtHyphen (numberReference? base p) := by
  intro s t
  simp only [numberReference?, takeWhile_append_hyphen h, dropWhile_append_hyphen h,
    dropSemicolon_append_hyphen]
  split <;> rfl

theorem stopsAtHyphen_nameReference? : StopsAtHyphen nameReference? := by
  intro s t
  have hhyphen : Char.isAlphanum '-' = false := by decide
  simp only [nameReference?, takeWhile_append_hyphen hhyphen, dropWhile_append_hyphen hhyphen,
    head?_append_hyphen (c := ';') (by decide), head?_append_hyphen (c := '=') (by decide), ne_eq]
  split
  next h =>
    rw [tail_append_of_head? h, Option.map_map]
    rfl
  next =>
    split
    next =>
      rw [Option.map_map]
      rfl
    next => rfl

theorem stopsAtHyphen_codeReference? : StopsAtHyphen codeReference? := by
  intro s t
  simp only [codeReference?, head?_append_hyphen (c := 'x') (by decide),
    head?_append_hyphen (c := 'X') (by decide)]
  split
  next h =>
    have htail : (s ++ '-' :: t).tail = s.tail ++ '-' :: t :=
      h.elim (tail_append_of_head? · _) (tail_append_of_head? · _)
    rw [htail, stopsAtHyphen_numberReference? 16 (by decide)]
  next => exact stopsAtHyphen_numberReference? 10 (by decide) s t

theorem stopsAtHyphen_attributeReference? : StopsAtHyphen attributeReference? := by
  intro s t
  simp only [attributeReference?, head?_append_hyphen (c := '#') (by decide)]
  split
  next h => rw [tail_append_of_head? h, stopsAtHyphen_codeReference?]
  next => exact stopsAtHyphen_nameReference? s t

/-- A reference does not reach over a hyphen. -/
theorem readReference_append_hyphen (s t : List Char) :
    readReference (s ++ '-' :: t) = readReference s ++ '-' :: t := by
  rw [readReference, stopsAtHyphen_attributeReference?, readReference]
  cases attributeReference? s with
  | none => rfl
  | some found => exact (List.append_assoc ..).symm

/-- So what stands in front of a hyphen and behind it is read apart. -/
theorem decodeValue_append_hyphen (s t : List Char) :
    decodeValue (s ++ '-' :: t) = decodeValue s ++ '-' :: decodeValue t := by
  obtain ⟨first, pieces, ht⟩ := List.exists_cons_of_ne_nil (splitAt_ne_nil '&' t)
  have hcons : splitAt '&' ('-' :: t) = ('-' :: first) :: pieces := by
    rw [splitAt, if_neg (by decide), ht]
  have hsplit := splitAt_append_cons hcons s
  rcases List.eq_nil_or_concat (splitAt '&' s) with hnil | ⟨front, last, hs⟩
  · exact absurd hnil (splitAt_ne_nil '&' s)
  · rw [List.concat_eq_append] at hs
    rw [hs, List.dropLast_concat, List.getLastD_concat] at hsplit
    rw [decodeValue, decodeValue, decodeValue, hsplit, hs, ht]
    -- The hyphen stands in the last piece of the text in front of it, be it the first or not.
    cases front with
    | nil => simp only [List.nil_append, List.flatMap_nil, List.append_nil, List.append_assoc,
        List.cons_append]
    | cons whole front =>
      simp only [List.cons_append, List.flatMap_append, List.flatMap_cons, List.flatMap_nil,
        List.append_nil, readReference_append_hyphen, List.append_assoc]

/-- Any sign but an ampersand is read as it is. -/
theorem decodeValue_cons {c : Char} (hc : c ≠ '&') (cs : List Char) :
    decodeValue (c :: cs) = c :: decodeValue cs := by
  obtain ⟨first, pieces, hsplit⟩ := List.exists_cons_of_ne_nil (splitAt_ne_nil '&' cs)
  rw [decodeValue, decodeValue, splitAt, if_neg hc, hsplit]
  rfl

theorem decodeValue_of_not_mem {cs : List Char} (h : '&' ∉ cs) : decodeValue cs = cs := by
  rw [decodeValue, splitAt_of_not_mem h]
  exact List.append_nil cs

end Hyphen

section Value

theorem readValue_append {value : List Char} (h : '\x22' ∉ value) (behind : List Char) :
    readValue (value ++ '\x22' :: behind) = some (decodeValue value, behind) := by
  rw [readValue, cutAt_append_mark h]

/-- A text between quotes is read back exactly if it is verbatim. -/
theorem readValue_eq_iff {cs behind : List Char} :
    readValue (cs ++ '\x22' :: behind) = some (cs, behind) ↔ IsVerbatim cs := by
  constructor
  · intro h
    by_cases hquote : '\x22' ∈ cs
    · obtain ⟨value, others, rfl, hvalue⟩ := List.eq_append_cons_of_mem hquote
      rw [List.append_assoc, List.cons_append, readValue_append hvalue] at h
      -- More stands behind the first quote than behind the last one.
      have hlength := congrArg List.length (Prod.mk.inj (Option.some.inj h)).2
      rw [List.length_append, List.length_cons] at hlength
      omega
    · rw [readValue_append hquote] at h
      exact ⟨hquote, (Prod.mk.inj (Option.some.inj h)).1⟩
  · intro h
    rw [readValue_append h.no_quote, h.decode_eq]

/-- Without quotes and ampersands a text is verbatim. -/
theorem isVerbatim_of_not_mem {cs : List Char} (hquote : '\x22' ∉ cs) (hmark : '&' ∉ cs) :
    IsVerbatim cs := ⟨hquote, decodeValue_of_not_mem hmark⟩

end Value

end Folio.Text
