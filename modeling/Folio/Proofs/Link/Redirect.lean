import Folio.Link.Redirect

/-!
# Redirect entries

An entry applies to a link under either of its spellings. Following it puts its target beside the
page that has moved and the fragment of the link behind the target, unless the entry names the
fragment itself.
-/

namespace Folio.Link

open Folio.Text Folio.Page

section Lookup

/-- The spellings under which a link is looked up: with its fragment and without. -/
def spellings (link : List Char) : List (List Char) := [lower link, lower (cutAt '#' link).1]

/-- No entry of the table is about the link. -/
def Unmoved (redirects : List Redirect) (link : List Char) : Prop :=
  ∀ entry ∈ redirects, redirectKey entry ∉ spellings link

instance (redirects : List Redirect) (link : List Char) : Decidable (Unmoved redirects link) :=
  inferInstanceAs (Decidable (∀ entry ∈ redirects, redirectKey entry ∉ spellings link))

theorem applicable?_eq_none {redirects : List Redirect} {link : List Char}
    (h : Unmoved redirects link) : applicable? redirects (spellings link) = none := by
  have hfilter :
      (redirects.filter fun entry => (spellings link).contains (redirectKey entry)) = [] :=
    List.filter_eq_nil_iff.mpr fun entry he hc => h entry he (List.contains_iff_mem.mp hc)
  rw [applicable?, hfilter, List.foldl_nil]

private theorem mem_of_foldl_moreSpecific {entries : List Redirect} {best : Option Redirect}
    {entry : Redirect} (h : entries.foldl moreSpecific best = some entry) :
    best = some entry ∨ entry ∈ entries := by
  induction entries generalizing best with
  | nil => exact Or.inl h
  | cons next entries ih =>
    rcases ih h with hbest | hmem
    · cases best with
      | none =>
        exact Or.inr (Option.some.inj hbest ▸ List.mem_cons_self ..)
      | some old =>
        rw [moreSpecific] at hbest
        split at hbest
        · exact Or.inl hbest
        · exact Or.inr (Option.some.inj hbest ▸ List.mem_cons_self ..)
    · exact Or.inr (List.mem_cons_of_mem next hmem)

/-- The entry that applies is one of the table. -/
theorem mem_of_applicable? {redirects : List Redirect} {spellings : List (List Char)}
    {entry : Redirect} (h : applicable? redirects spellings = some entry) : entry ∈ redirects := by
  rcases mem_of_foldl_moreSpecific h with hnone | hmem
  · exact absurd hnone (by simp)
  · exact (List.mem_filter.mp hmem).1

end Lookup

section Follow

/-- The target of an entry as it is read from the directory of a page. -/
def besidePage (page target : List Char) : List Char :=
  let base := (dropEndWhile (· = '/') (Path.normalize (Path.parent page))).dropWhile (· = '/')
  if base = [] then target.dropWhile (· = '/') else base ++ '/' :: target

/-- A text with the fragment of a link behind it: with a number sign, or with a hyphen if it has a
fragment already. -/
def withFragment (url : List Char) : Option (List Char) → List Char
  | none => url
  | some fragment => url ++ (if url.contains '#' then '-' else '#') :: fragment

/-- The fragment that an entry keeps of a link. -/
def keptFragment (entry : Redirect) (fragment : Option (List Char)) : Option (List Char) :=
  if entry.source.contains '#' then none else fragment

theorem prefix_withFragment (url : List Char) (fragment : Option (List Char)) :
    url <+: withFragment url fragment := by
  cases fragment with
  | none => exact List.prefix_refl url
  | some fragment => exact List.prefix_append url _

/-- Following an entry gives its target, or that target beside the page, with the kept fragment. -/
private theorem follow_eq (entry : Redirect) (page : List Char) (fragment : Option (List Char)) :
    follow entry page fragment =
      if Path.hasScheme entry.target = true then
        .address (withFragment entry.target (keptFragment entry fragment))
      else .inBook (Path.normalize
        (withFragment (besidePage page entry.target) (keptFragment entry fragment))) := by
  unfold follow keptFragment
  cases fragment with
  | none =>
    rw [ite_self]
    cases Path.hasScheme entry.target <;> rfl
  | some fragment =>
    by_cases hmark : entry.source.contains '#' = true
    · simp only [if_pos hmark]
      cases Path.hasScheme entry.target <;> rfl
    · simp only [if_neg hmark]
      cases Path.hasScheme entry.target <;> rfl

/-- A target with a scheme is an address of its own. -/
theorem follow_of_hasScheme {entry : Redirect} (h : Path.hasScheme entry.target = true)
    (page : List Char) (fragment : Option (List Char)) :
    follow entry page fragment =
      .address (withFragment entry.target (keptFragment entry fragment)) := by
  rw [follow_eq, if_pos h]

/-- Any other target is a path beside the page. -/
theorem follow_of_not_hasScheme {entry : Redirect} (h : Path.hasScheme entry.target = false)
    (page : List Char) (fragment : Option (List Char)) :
    follow entry page fragment =
      .inBook (Path.normalize
        (withFragment (besidePage page entry.target) (keptFragment entry fragment))) := by
  rw [follow_eq, if_neg (Bool.eq_false_iff.mp h)]

end Follow

end Folio.Link
