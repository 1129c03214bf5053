import Folio.Text.CaseTable

/-!
# Lower case and case folding

Lower-casing is done character by character, but for the capital sigma: at the end of a word it
becomes the final form. A word ends where no cased character follows, marks and other case-ignorable
characters passed over. `foldCase` is the form under which link labels are compared.
-/

namespace Folio.Text

/-- The lower-case form of a character that does not depend on its neighbours. -/
def lowerChar (c : Char) : List Char :=
  if c.val < 128 then [c.toLower]
  else if c.toNat = 0x130 then ['i', Char.ofNat 0x307]
  else
    match lowerRuns.find? (·.covers c.toNat) with
    | some run => [run.image c.toNat]
    | none => [c]

/-- Whether the nearest character that is not case-ignorable is cased. -/
def startsCased : List Char → Bool
  | [] => false
  | c :: cs =>
    if inRanges caseIgnorableRanges c.toNat then startsCased cs
    else inRanges casedRanges c.toNat

/-- The capital sigma. -/
def capitalSigma : Char := Char.ofNat 0x3a3

/-- Lower-casing behind a text of which `cased` tells whether its last character that is not
case-ignorable is cased. -/
def lowerFrom (cased : Bool) : List Char → List Char
  | [] => []
  | c :: cs =>
    let image :=
      if c = capitalSigma then
        [Char.ofNat (if cased && !startsCased cs then 0x3c2 else 0x3c3)]
      else lowerChar c
    let cased :=
      if c.val < 128 && c.isAlpha then true
      else if inRanges caseIgnorableRanges c.toNat then cased
      else inRanges casedRanges c.toNat
    image ++ lowerFrom cased cs

/-- The lower-case form of a text. -/
def lower (cs : List Char) : List Char := lowerFrom false cs

/-- Without a capital sigma lower-casing looks at one character at a time. -/
theorem lower_eq_flatMap {cs : List Char} (h : capitalSigma ∉ cs) :
    lower cs = cs.flatMap lowerChar := by
  unfold lower
  generalize false = cased
  induction cs generalizing cased with
  | nil => rfl
  | cons c cs ih =>
    simp only [List.mem_cons, not_or] at h
    simp only [lowerFrom, List.flatMap_cons, if_neg (Ne.symm h.1), ih h.2]

/-- The folded form of a character: its lower-case form turned to upper case. -/
def foldChar (c : Char) : List Char :=
  if c.val < 128 then [c.toUpper]
  else
    match foldSpecials.find? (·.1 == c.toNat) with
    | some (_, image) => image.map Char.ofNat
    | none =>
      match foldRuns.find? (·.covers c.toNat) with
      | some run => [run.image c.toNat]
      | none => [c]

/-- The form of a text that forgets case. -/
def foldCase (cs : List Char) : List Char := cs.flatMap foldChar

end Folio.Text
