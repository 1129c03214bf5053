import Folio.Path.Anchor
import Folio.Proofs.Path.Normal
import Folio.Proofs.Text.LowerCase

/-!
# Anchors of pages and fragments

An anchor holds neither slashes nor number signs. A rendered page has the anchor of its chapter, and
a fragment of the page follows that anchor behind a hyphen.
-/

namespace Folio.Path

open Folio.Text

/-- A path with hyphens for slashes. -/
def hyphened (path : List Char) : List Char := path.map fun c => if c = '/' then '-' else c

@[simp] theorem hyphened_append (s t : List Char) :
    hyphened (s ++ t) = hyphened s ++ hyphened t := List.map_append

theorem hyphened_eq_self {cs : List Char} (h : '/' ∉ cs) : hyphened cs = cs := map_ite_eq_self h

/-- No character but the hyphen is added, and no slash is left. -/
theorem mem_of_mem_hyphened {path : List Char} {c : Char} (h : c ∈ hyphened path) (hc : c ≠ '-') :
    c ∈ path ∧ c ≠ '/' := (mem_map_ite h).resolve_left hc

/-- The number sign with the page extension in front of it. -/
def pageMark : List Char := htmlExtension ++ ['#']

/-- The text that an anchor is made of by lower-casing. -/
def flattened (url : List Char) : List Char :=
  (replaceAll pageMark ['-'] (hyphened url)).map fun c => if c = '#' then '-' else c

theorem anchor_eq (url : List Char) :
    anchor url = dropSuffix htmlExtension (lower (flattened url)) := rfl

/-- The signs of an anchor are hyphens and those of the path, but for slashes and number signs. -/
theorem mem_of_mem_anchor {url : List Char} {c : Char} (h : c ∈ anchor url)
    (hc : c.toNat < firstLetter) (hhyphen : c ≠ '-') : c ∈ url ∧ c ≠ '/' ∧ c ≠ '#' := by
  have hflat : c ∈ flattened url := mem_of_mem_lower ((dropSuffix_isPrefix _ _).subset h) hc
  obtain ⟨hjoined, hmark⟩ := (mem_map_ite hflat).resolve_left hhyphen
  have hold : c ∈ hyphened url :=
    (mem_of_mem_replaceAll hjoined).resolve_left fun hnew => hhyphen (List.mem_singleton.mp hnew)
  obtain ⟨hurl, hslash⟩ := mem_of_mem_hyphened hold hhyphen
  exact ⟨hurl, hslash, hmark⟩

/-- An anchor is the name of one fragment. -/
theorem mark_not_mem_anchor (url : List Char) : '#' ∉ anchor url :=
  fun h => (mem_of_mem_anchor h (by decide) (by decide)).2.2 rfl

/-- An anchor is not a path. -/
theorem slash_not_mem_anchor (url : List Char) : '/' ∉ anchor url :=
  fun h => (mem_of_mem_anchor h (by decide) (by decide)).2.1 rfl

/-- The signs of a chapter's name are hyphens and those of its path. -/
theorem mem_of_mem_pageId {path : List Char} {c : Char} (h : c ∈ pageId path)
    (hc : c.toNat < firstLetter) (hhyphen : c ≠ '-') : c ∈ path := by
  obtain ⟨hnormal, hslash, -⟩ := mem_of_mem_anchor h hc hhyphen
  exact (dropSuffix_isPrefix _ _).subset (mem_of_mem_normalize hnormal hslash).1

section Flattened

variable {path : List Char}

theorem mark_not_mem_hyphened (h : '#' ∉ path) : '#' ∉ hyphened path :=
  fun hm => h (mem_of_mem_hyphened hm (by decide)).1

/-- Without number signs only the slashes are flattened. -/
theorem flattened_of_not_mem (h : '#' ∉ path) : flattened path = hyphened path := by
  have hh := mark_not_mem_hyphened h
  rw [flattened, replaceAll_of_not_mem (c := '#') (by decide) hh, map_ite_eq_self hh]

/-- The page extension in front of a fragment is flattened with the number sign. -/
theorem flattened_fragment {fragment : List Char} (h : '#' ∉ path) (hf : '#' ∉ fragment)
    (hs : '/' ∉ fragment) :
    flattened (path ++ htmlExtension ++ '#' :: fragment) = hyphened path ++ '-' :: fragment := by
  have hh := mark_not_mem_hyphened h
  have hslash : '/' ∉ pageMark ++ fragment := by
    rw [List.mem_append, not_or]
    exact ⟨by decide, hs⟩
  have htext : hyphened (path ++ htmlExtension ++ '#' :: fragment) =
      hyphened path ++ pageMark ++ fragment := by
    have heq : path ++ htmlExtension ++ '#' :: fragment = path ++ (pageMark ++ fragment) := by
      simp only [pageMark, List.append_assoc, List.singleton_append]
    rw [heq, hyphened_append, hyphened_eq_self hslash, List.append_assoc]
  have hreplace : replaceAll pageMark ['-'] (hyphened path ++ pageMark ++ fragment) =
      hyphened path ++ '-' :: fragment := by
    rw [pageMark, replaceAll_first (by decide) hh, ← pageMark,
      replaceAll_of_not_mem (c := '#') (by decide) hf, List.append_assoc, List.singleton_append]
  have hmark : '#' ∉ hyphened path ++ '-' :: fragment := by
    simp only [List.mem_append, List.mem_cons, not_or]
    exact ⟨hh, by decide, hf⟩
  rw [flattened, htext, hreplace, map_ite_eq_self hmark]

/-- A fragment follows the path of its page behind a hyphen, both in lower case, and only the
fragment may lose an extension. -/
theorem anchor_fragment_eq {fragment : List Char} (h : '#' ∉ path) (hf : '#' ∉ fragment)
    (hslash : '/' ∉ fragment) :
    anchor (path ++ htmlExtension ++ '#' :: fragment) =
      lower (hyphened path) ++ '-' :: dropSuffix htmlExtension (lower fragment) := by
  rw [anchor_eq, flattened_fragment h hf hslash, lower_append_hyphen,
    dropSuffix_append_mark (by decide)]

/-- A fragment in lower case follows the anchor of its page behind a hyphen. -/
theorem anchor_fragment {fragment : List Char} (h : '#' ∉ path) (hf : '#' ∉ fragment)
    (hslash : '/' ∉ fragment) (hdot : '.' ∉ fragment) (hlower : lower fragment = fragment) :
    anchor (path ++ htmlExtension ++ '#' :: fragment) =
      lower (hyphened path) ++ '-' :: fragment := by
  have hext : ¬ htmlExtension <:+ fragment := fun hsuffix => hdot (hsuffix.subset (by decide))
  rw [anchor_fragment_eq h hf hslash, hlower, dropSuffix_eq_self hext]

end Flattened

section Hyphened

variable {dir : List (List Char)} {stem : List Char}

/-- Behind directories the last segment of a path follows a hyphen. -/
theorem hyphened_joinWith_concat (hdir : dir ≠ []) (hstem : '/' ∉ stem) :
    hyphened (joinWith ['/'] (dir ++ [stem])) = hyphened (joinWith ['/'] dir) ++ '-' :: stem := by
  rw [joinWith_concat hdir, hyphened_append, hyphened_append, hyphened_eq_self hstem,
    List.append_assoc]
  rfl

/-- What the directories of a page put in front of its name in an anchor. -/
def dirAnchor (dir : List (List Char)) : List Char :=
  if dir = [] then [] else lower (hyphened (joinWith ['/'] dir)) ++ ['-']

/-- The names in front of the last segment of a path and that segment are lower-cased apart. -/
theorem lower_hyphened_concat (hstem : '/' ∉ stem) :
    lower (hyphened (joinWith ['/'] (dir ++ [stem]))) = dirAnchor dir ++ lower stem := by
  by_cases hdir : dir = []
  · rw [hdir, List.nil_append, joinWith, hyphened_eq_self hstem]
    rfl
  · rw [hyphened_joinWith_concat hdir hstem, lower_append_hyphen, dirAnchor, if_neg hdir,
      List.append_assoc, List.singleton_append]

/-- Only the last segment of a path decides whether its anchor would lose an extension. -/
theorem suffix_lower_hyphened_iff (hstem : '/' ∉ stem) :
    htmlExtension <:+ lower (hyphened (joinWith ['/'] (dir ++ [stem]))) ↔
      htmlExtension <:+ lower stem := by
  rw [lower_hyphened_concat hstem, dirAnchor]
  split
  · rw [List.nil_append]
  · rw [List.append_assoc, List.singleton_append]
    refine ⟨suffix_of_suffix_append_mark (by decide), fun h => ?_⟩
    exact h.trans ((List.suffix_cons _ _).trans (List.suffix_append _ _))

end Hyphened

end Folio.Path
