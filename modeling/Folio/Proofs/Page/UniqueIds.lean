import Mathlib.Data.List.ReduceOption
import Folio.Markdown.Document
import Folio.Proofs.Anchor.Repeats
import Folio.Proofs.Page.Heading

/-!
# Heading ids that repeat

The headings of a stream have the ids that their attributes give and those that the counter hands
out. Given ids do not reach the counter, and the counter only looks at slugs, so an id may repeat in
two ways: a given one is the text of one handed out, or the slugs are ambiguous.
-/

namespace Folio.Page

open Folio.Anchor

/-- Names are told apart by their spelling in a context. -/
theorem Context.spell_injective (context : Context) : Function.Injective context.spell := by
  intro name other h
  rw [spell, spell, String.ofList_inj] at h
  split at h
  · exact h
  · exact (List.cons.inj (List.append_cancel_left h)).2

namespace Heading

variable {heading : Heading} {given : String}

/-- A heading with an id of its own asks for no slug. -/
theorem slug?_of_id? (h : heading.id? = some given) : heading.slug? = none := by
  obtain ⟨value, hvalue, -⟩ := Option.map_eq_some_iff.mp h
  rw [slug?, hvalue, if_neg (Option.some_ne_none value)]

/-- A heading without one asks for a slug. -/
theorem exists_slug?_of_id? (h : heading.id? = none) : ∃ base, heading.slug? = some base := by
  rw [id?, Option.map_eq_none_iff] at h
  rw [slug?, if_pos h]
  exact ⟨_, rfl⟩

/-- An id of its own is kept, and the counter does not see it. -/
theorem anchorId_of_id? (h : heading.id? = some given) (context : Context) (counter : Counter) :
    anchorId context counter heading.opening heading.inline = (given, counter) := by
  obtain ⟨value, hvalue, rfl⟩ := Option.map_eq_some_iff.mp h
  rw [anchorId, hvalue]

end Heading

/-- The ids that the attributes of headings give. -/
def givenIds (hs : List Heading) : List String := hs.filterMap Heading.id?

/-- The slugs that headings ask the counter for, in order. -/
def askedSlugs (hs : List Heading) : List (List Char) := (slugs hs).reduceOption

/-- The ids of headings are those given and those that the counter hands out for their slugs. -/
theorem anchorIds_perm (context : Context) (hs : List Heading) {counter : Counter}
    {seen : List (List Char)} (hseen : ∀ base, counter.count base = seen.count base) :
    (anchorIds context counter hs).1.Perm
      (givenIds hs ++ (issuedFrom seen ((askedSlugs hs).map (context.pageId, ·))).map
        fun issued => context.spell issued.name) := by
  induction hs generalizing counter seen with
  | nil => exact List.Perm.refl []
  | cons heading rest ih =>
    rw [anchorIds]
    cases hid : heading.id? with
    | some given =>
      have hgiven : givenIds (heading :: rest) = given :: givenIds rest :=
        List.filterMap_cons_some hid
      have hasked : askedSlugs (heading :: rest) = askedSlugs rest := by
        rw [askedSlugs, slugs, List.map_cons, Heading.slug?_of_id? hid,
          List.reduceOption_cons_of_none]
        rfl
      rw [Heading.anchorId_of_id? hid, hgiven, hasked, List.cons_append]
      exact (ih hseen).cons given
    | none =>
      obtain ⟨base, hbase⟩ := Heading.exists_slug?_of_id? hid
      have hgiven : givenIds (heading :: rest) = givenIds rest := List.filterMap_cons_none hid
      have hasked : askedSlugs (heading :: rest) = base :: askedSlugs rest := by
        rw [askedSlugs, slugs, List.map_cons, hbase, List.reduceOption_cons_of_some]
        rfl
      obtain ⟨hfirst, hnext⟩ := anchorId_of_seen context hbase hseen
      rw [hgiven, hasked, List.map_cons, issuedFrom, List.map_cons, hfirst]
      exact ((ih hnext).cons _).trans List.perm_middle.symm

/-- The names that slugs get are none of the given ids exactly if no slug with one of its numbers is
spelled like a given id. -/
theorem disjoint_names_iff (context : Context) (bases : List (List Char)) (given : List String) :
    (∀ id ∈ given, ∀ name ∈ (issuedFrom [] (bases.map (context.pageId, ·))).map fun issued =>
        context.spell issued.name, id ≠ name) ↔
      ∀ base n, n < bases.count base → context.spell (numbered base n) ∉ given := by
  constructor
  · intro hne base n hn hmem
    have hin : ⟨context.pageId, base, n⟩ ∈ issuedFrom [] (bases.map (context.pageId, ·)) :=
      (mem_issuedFrom_nil_iff _ _ _).mpr ⟨rfl, hn⟩
    exact hne _ hmem _ (List.mem_map_of_mem hin) rfl
  · rintro hnot id hmem name hname rfl
    obtain ⟨⟨page, base, n⟩, hin, hspell⟩ := List.mem_map.mp hname
    obtain ⟨-, hn⟩ := (mem_issuedFrom_nil_iff _ _ _).mp hin
    rw [← hspell] at hmem
    exact hnot base n hn hmem

/-- The headings of a stream, anchored with a counter that has seen nothing and with given ids that
are pairwise different, have pairwise different ids exactly if none of the given ids is one of those
handed out and the slugs are unambiguous. Likewise for the ids that the counter hands out to any
contents one after the other. -/
theorem nodup_headingIds_iff (context : Context) (tokens : List Token)
    (hgiven : (givenIds (headings tokens)).Nodup) :
    let bases := askedSlugs (headings tokens)
    (∃ ids : List String,
      (headings (anchorHeadings context {} tokens).1).map Heading.id? = ids.map some ∧
      (ids.Nodup ↔
        (∀ base n, n < bases.count base →
          context.spell (numbered base n) ∉ givenIds (headings tokens)) ∧
        IsUnambiguous bases)) ∧
    ∀ contents, (issueAll {} contents).1.Nodup ↔ IsUnambiguous (contents.map slug) := by
  intro bases
  have hids := (headings_anchorHeadings context {} tokens).1
  refine ⟨⟨_, hids, ?_⟩, nodup_issueAll_iff⟩
  have hseen : ∀ base, Counter.count {} base = ([] : List (List Char)).count base := fun _ => rfl
  let issued := issuedFrom [] (bases.map (context.pageId, ·))
  have hperm : (anchorIds context {} (headings tokens)).1.Perm
      (givenIds (headings tokens) ++ issued.map fun issued => context.spell issued.name) :=
    anchorIds_perm context (headings tokens) hseen
  have hissued : (issued.map fun issued => context.spell issued.name).Nodup ↔
      IsUnambiguous bases := by
    rw [← nodup_map_name_iff context.pageId, ← List.nodup_map_iff context.spell_injective,
      List.map_map]
    rfl
  rw [hperm.nodup_iff, List.nodup_append, hissued, disjoint_names_iff]
  constructor
  · rintro ⟨-, hclear, hnot⟩
    exact ⟨hnot, hclear⟩
  · rintro ⟨hnot, hclear⟩
    exact ⟨hgiven, hclear, hnot⟩

/-- Headings with a given id, with one slug, and with a number in the text. -/
theorem nodup_headingIds_iff_mixed :
    let tokens := Markdown.parse {} "# A {#x}\n\n# A\n\n# A\n\n# B 1\n"
    let bases := askedSlugs (headings tokens)
    (givenIds (headings tokens)).Nodup ∧
    (headings (anchorHeadings {} {} tokens).1).map Heading.id? =
      ["x", "a", "a-1", "b-1"].map some ∧
    (∀ base n, n < bases.count base →
      Context.spell {} (numbered base n) ∉ givenIds (headings tokens)) ∧
    IsUnambiguous bases := by
  intro tokens bases
  have hgiven : (givenIds (headings tokens)).Nodup := by decide +kernel
  have hmixed : (headings (anchorHeadings {} {} tokens).1).map Heading.id? =
      ["x", "a", "a-1", "b-1"].map some := by decide +kernel
  obtain ⟨⟨ids, hids, hnodup⟩, -⟩ := nodup_headingIds_iff {} tokens hgiven
  have heq : ids = ["x", "a", "a-1", "b-1"] :=
    List.map_injective_iff.mpr (fun _ _ => Option.some.inj) (hids.symm.trans hmixed)
  exact ⟨hgiven, hmixed, hnodup.mp (by rw [heq]; decide)⟩

/-- A slug spells another one with its number, and a given id is the slug of another heading. -/
theorem headingIds_repeated :
    let ids (text : String) := (headings (anchorHeadings {} {} (Markdown.parse {} text)).1).map
      Heading.id?
    (issueAll {} ["A".toList, "A".toList, "A 1".toList]).1 =
      ["a".toList, "a-1".toList, "a-1".toList] ∧
    ids "# A\n\n# A\n\n# A 1\n" = [some "a", some "a-1", some "a-1"] ∧
    ids "# A {#b}\n\n# B\n" = [some "b", some "b"] ∧
    givenIds (headings (Markdown.parse {} "# A\n\n# A\n\n# A 1\n")) = [] ∧
    givenIds (headings (Markdown.parse {} "# A {#b}\n\n# B\n")) = ["b"] := by
  decide +kernel

end Folio.Page
