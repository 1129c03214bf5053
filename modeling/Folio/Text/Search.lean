/-!
# Searching and replacing in texts

Prefixes, suffixes and non-overlapping occurrences of a word, over lists of characters. Occurrences
are found from the left and the search resumes behind each of them.
-/

namespace Folio.Text

/-- Whether `word` occurs somewhere in the text. -/
def contains (word : List Char) : List Char → Bool
  | [] => word.isEmpty
  | c :: cs => word.isPrefixOf (c :: cs) || contains word cs

/-- Replacement with the first `skip` characters passed over, which are the rest of an occurrence
that has been replaced already. -/
def replaceFrom (word new : List Char) : Nat → List Char → List Char
  | _, [] => []
  | skip + 1, _ :: cs => replaceFrom word new skip cs
  | 0, c :: cs =>
    if word.isPrefixOf (c :: cs) then new ++ replaceFrom word new (word.length - 1) cs
    else c :: replaceFrom word new 0 cs

/-- Replace each occurrence of a non-empty word. -/
def replaceAll (word new cs : List Char) : List Char := replaceFrom word new 0 cs

/-- Passing over characters is the same as dropping them first. -/
theorem replaceFrom_eq_drop (word new : List Char) (skip : Nat) (cs : List Char) :
    replaceFrom word new skip cs = replaceAll word new (cs.drop skip) := by
  induction cs generalizing skip with
  | nil => cases skip <;> simp [replaceAll, replaceFrom]
  | cons c cs ih =>
    cases skip with
    | zero => rfl
    | succ skip => simpa [replaceFrom] using ih skip

/-- An occurrence at the front is replaced as a whole. -/
theorem replaceAll_append {word : List Char} (h : word ≠ []) (new cs : List Char) :
    replaceAll word new (word ++ cs) = new ++ replaceAll word new cs := by
  obtain ⟨c, rest, rfl⟩ := List.exists_cons_of_ne_nil h
  have h : (c :: rest).isPrefixOf ((c :: rest) ++ cs) = true := by simp
  simp only [replaceAll, List.cons_append] at h ⊢
  rw [replaceFrom, if_pos h, replaceFrom_eq_drop]
  simp [replaceAll]

/-- A character at which no occurrence begins is kept. -/
theorem replaceAll_cons {word : List Char} {c : Char} {cs : List Char}
    (h : word.isPrefixOf (c :: cs) = false) (new : List Char) :
    replaceAll word new (c :: cs) = c :: replaceAll word new cs := by
  simp [replaceAll, replaceFrom, h]

/-- The text without `word` at its end, if it ends so. -/
def dropSuffix? (word cs : List Char) : Option (List Char) :=
  if word.isSuffixOf cs then some (cs.take (cs.length - word.length)) else none

/-- The text without `word` at its end, or the text itself. -/
def dropSuffix (word cs : List Char) : List Char := (dropSuffix? word cs).getD cs

/-- Split at the first `mark`: what stands before it, and what stands behind it if it occurs. -/
def cutAt (mark : Char) : List Char → List Char × Option (List Char)
  | [] => ([], none)
  | c :: cs =>
    if c = mark then ([], some cs)
    else
      let (before, behind) := cutAt mark cs
      (c :: before, behind)

/-- The pieces between the occurrences of `mark`; there is always at least one. -/
def splitAt (mark : Char) : List Char → List (List Char)
  | [] => [[]]
  | c :: cs =>
    if c = mark then [] :: splitAt mark cs
    else
      match splitAt mark cs with
      | [] => [[c]]
      | piece :: pieces => (c :: piece) :: pieces

/-- The pieces with `mark` written between neighbours. -/
def joinWith (mark : List Char) : List (List Char) → List Char
  | [] => []
  | [piece] => piece
  | piece :: next :: pieces => piece ++ mark ++ joinWith mark (next :: pieces)

end Folio.Text
