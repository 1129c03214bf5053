import Folio.Anchor.Slug

/-!
# Numbered ids

A counter records how often each slug has been handed out. The first heading with a slug gets the
slug itself, every later one the slug with the number of earlier ones behind it.
-/

namespace Folio.Anchor

/-- How often each slug has been handed out, in the order of first use. -/
structure Counter where
  entries : List (List Char × Int) := []
  deriving Repr, DecidableEq

namespace Counter

/-- The number recorded for a slug, zero if there is none. -/
def count (counter : Counter) (base : List Char) : Int :=
  (counter.entries.lookup base).getD 0

private def setIn (base : List Char) (n : Int) :
    List (List Char × Int) → List (List Char × Int)
  | [] => [(base, n)]
  | (key, m) :: rest => if key = base then (key, n) :: rest else (key, m) :: setIn base n rest

/-- Record a number for a slug; a slug that is there keeps its place. -/
def set (counter : Counter) (base : List Char) (n : Int) : Counter :=
  ⟨setIn base n counter.entries⟩

/-- A counter with these entries, a later one overriding an earlier one with the same slug. -/
def ofList (entries : List (List Char × Int)) : Counter :=
  entries.foldl (fun counter entry => counter.set entry.1 entry.2) {}

private theorem lookup_entry (key k : List Char) (m : Int) (rest : List (List Char × Int)) :
    ((k, m) :: rest).lookup key = if key = k then some m else rest.lookup key := by
  rw [List.lookup_cons]
  by_cases h : key = k
  · simp [h]
  · simp [h, beq_eq_false_iff_ne.mpr h]

private theorem lookup_setIn (base key : List Char) (n : Int)
    (entries : List (List Char × Int)) :
    (setIn base n entries).lookup key = if key = base then some n else entries.lookup key := by
  induction entries with
  | nil => simp [setIn, lookup_entry]
  | cons entry rest ih =>
    obtain ⟨k, m⟩ := entry
    by_cases hk : k = base
    · subst hk
      by_cases h : key = k <;> simp [setIn, lookup_entry, h]
    · by_cases h : key = k
      · subst h
        simp [setIn, hk]
      · simp [setIn, lookup_entry, hk, h, ih]

/-- Recording a number changes the entry of that slug and no other. -/
theorem lookup_set (counter : Counter) (base key : List Char) (n : Int) :
    (counter.set base n).entries.lookup key =
      if key = base then some n else counter.entries.lookup key :=
  lookup_setIn base key n counter.entries

/-- Recording a number changes that slug's number and no other. -/
theorem count_set (counter : Counter) (base key : List Char) (n : Int) :
    (counter.set base n).count key = if key = base then n else counter.count key := by
  simp only [count, set, lookup_setIn]
  split <;> rfl

end Counter

/-- The id of the heading with slug `base` when `seen` headings with it have come before. -/
def numbered (base : List Char) (seen : Int) : List Char :=
  if seen = 0 then base else base ++ '-' :: (toString seen).toList

/-- Hand out the next id for a heading's content. -/
def issue (counter : Counter) (content : List Char) : List Char × Counter :=
  let base := slug content
  let seen := counter.count base
  (numbered base seen, counter.set base (seen + 1))

end Folio.Anchor
