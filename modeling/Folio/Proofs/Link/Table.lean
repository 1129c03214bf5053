import Folio.Proofs.Link.Resolve
import Folio.Proofs.Text.LowerCase
import Mathlib.Data.List.Nodup

/-!
# The redirect table as a whole

A table names each source once. Of the entries about a link one is then the most specific, in
whatever order they stand, and it is the first of them when the table is walked in order of
specificity. It alone decides what the link becomes, and it names the fragment of the link if any of
them does.
-/

namespace Folio.Link

open Folio.Text Folio.Page

/-- A table has one entry for a source. -/
def IsTable (redirects : List Redirect) : Prop := (redirects.map (·.source)).Nodup

instance (redirects : List Redirect) : Decidable (IsTable redirects) :=
  inferInstanceAs (Decidable (redirects.map (·.source)).Nodup)

/-- Among the entries of a table that are about a link, one whose source is the longest in normal
form and, of those as long, comes first. -/
structure IsMostSpecific (redirects : List Redirect) (link : List Char) (entry : Redirect) :
    Prop where
  mem : entry ∈ redirects
  about : redirectKey entry ∈ spellings link
  longest : ∀ other ∈ redirects, redirectKey other ∈ spellings link →
    (redirectKey other).length ≤ (redirectKey entry).length
  smallest : ∀ other ∈ redirects, redirectKey other ∈ spellings link →
    (redirectKey other).length = (redirectKey entry).length → inOrder entry.source other.source

section Order

variable {a b c : Redirect}

theorem precedes_iff :
    precedes a b = true ↔ (redirectKey b).length < (redirectKey a).length ∨
      (redirectKey a).length = (redirectKey b).length ∧ inOrder a.source b.source = true := by
  simp only [precedes, Bool.or_eq_true, Bool.and_eq_true, decide_eq_true_eq, beq_iff_eq]

/-- Of two entries one precedes the other. -/
theorem precedes_total (a b : Redirect) : precedes a b = true ∨ precedes b a = true := by
  rw [precedes_iff, precedes_iff]
  rcases Nat.lt_trichotomy (redirectKey a).length (redirectKey b).length with h | h | h
  · exact Or.inr (Or.inl h)
  · exact (inOrder_total a.source b.source).imp (fun ho => Or.inr ⟨h, ho⟩)
      fun ho => Or.inr ⟨h.symm, ho⟩
  · exact Or.inl (Or.inl h)

theorem precedes_trans (hab : precedes a b = true) (hbc : precedes b c = true) :
    precedes a c = true := by
  rw [precedes_iff] at hab hbc ⊢
  rcases hab with hab | ⟨hab, hoab⟩
  · left
    omega
  · rcases hbc with hbc | ⟨hbc, hobc⟩
    · left
      omega
    · exact Or.inr ⟨hab.trans hbc, inOrder_trans hoab hobc⟩

/-- Entries that precede each other have the same source. -/
theorem source_eq_of_precedes (hab : precedes a b = true) (hba : precedes b a = true) :
    a.source = b.source := by
  rw [precedes_iff] at hab hba
  rcases hab with hab | ⟨hab, hoab⟩
  · omega
  · rcases hba with hba | ⟨-, hoba⟩
    · omega
    · exact inOrder_antisymm hoab hoba

end Order

section Choice

variable {redirects : List Redirect} {link : List Char} {entry : Redirect}

/-- The most specific entry is the one about the link that precedes all others. -/
theorem isMostSpecific_iff :
    IsMostSpecific redirects link entry ↔
      (entry ∈ redirects ∧ redirectKey entry ∈ spellings link) ∧
        ∀ other ∈ redirects, redirectKey other ∈ spellings link → precedes entry other = true := by
  constructor
  · intro h
    refine ⟨⟨h.mem, h.about⟩, fun other hmem habout => precedes_iff.mpr ?_⟩
    rcases Nat.lt_or_eq_of_le (h.longest other hmem habout) with hlt | heq
    · exact Or.inl hlt
    · exact Or.inr ⟨heq.symm, h.smallest other hmem habout heq⟩
  · rintro ⟨⟨hmem, habout⟩, hfirst⟩
    refine ⟨hmem, habout, fun other ho hs => ?_, fun other ho hs heq => ?_⟩
    · rcases precedes_iff.mp (hfirst other ho hs) with hlt | ⟨heq, -⟩
      · exact Nat.le_of_lt hlt
      · exact Nat.le_of_eq heq.symm
    · rcases precedes_iff.mp (hfirst other ho hs) with hlt | ⟨-, horder⟩
      · omega
      · exact horder

/-- A table has at most one most specific entry about a link. -/
theorem IsMostSpecific.unique (htable : IsTable redirects) {other : Redirect}
    (h : IsMostSpecific redirects link entry) (hother : IsMostSpecific redirects link other) :
    entry = other := by
  obtain ⟨⟨hmem, habout⟩, hfirst⟩ := isMostSpecific_iff.mp h
  obtain ⟨⟨hmem', habout'⟩, hfirst'⟩ := isMostSpecific_iff.mp hother
  have hsource : entry.source = other.source :=
    source_eq_of_precedes (hfirst other hmem' habout') (hfirst' entry hmem habout)
  exact List.inj_on_of_nodup_map htable hmem hmem' hsource

/-- An entry stays the most specific one of a part of the table that it is in. -/
theorem IsMostSpecific.of_subset (h : IsMostSpecific redirects link entry)
    {kept : List Redirect} (hkept : kept ⊆ redirects) (hmem : entry ∈ kept) :
    IsMostSpecific kept link entry where
  mem := hmem
  about := h.about
  longest other ho := h.longest other (hkept ho)
  smallest other ho := h.smallest other (hkept ho)

/-- The fold over the entries about a link keeps one that precedes all it has passed. -/
private theorem exists_foldl_moreSpecific (old : Redirect) (entries : List Redirect) :
    ∃ best, entries.foldl moreSpecific (some old) = some best ∧ best ∈ old :: entries ∧
      ∀ other ∈ old :: entries, precedes best other = true := by
  induction entries generalizing old with
  | nil =>
    refine ⟨old, rfl, List.mem_singleton_self old, fun other ho => ?_⟩
    rw [List.mem_singleton.mp ho]
    exact (precedes_total old old).elim id id
  | cons next entries ih =>
    rw [List.foldl_cons, moreSpecific]
    by_cases hp : precedes old next = true
    · rw [if_pos hp]
      obtain ⟨best, hbest, hmem, hfirst⟩ := ih old
      refine ⟨best, hbest, ?_, fun other ho => ?_⟩
      · exact List.cons_subset_cons old (List.subset_cons_self next entries) hmem
      · have hold : precedes best old = true := hfirst old (List.mem_cons_self ..)
        rcases List.mem_cons.mp ho with rfl | ho
        · exact hold
        · rcases List.mem_cons.mp ho with rfl | ho
          · exact precedes_trans hold hp
          · exact hfirst other (List.mem_cons_of_mem old ho)
    · rw [if_neg hp]
      obtain ⟨best, hbest, hmem, hfirst⟩ := ih next
      refine ⟨best, hbest, List.mem_cons_of_mem old hmem, fun other ho => ?_⟩
      rcases List.mem_cons.mp ho with rfl | ho
      · exact precedes_trans (hfirst next (List.mem_cons_self ..))
          ((precedes_total _ _).resolve_left hp)
      · exact hfirst other ho

/-- The entry that applies is a most specific one, and there is one if any entry is about the
link. -/
theorem exists_applicable? (h : ¬ Unmoved redirects link) :
    ∃ entry, applicable? redirects (spellings link) = some entry ∧
      IsMostSpecific redirects link entry := by
  have hmem : ∀ entry : Redirect,
      entry ∈ redirects.filter (fun e => (spellings link).contains (redirectKey e)) ↔
        entry ∈ redirects ∧ redirectKey entry ∈ spellings link := by
    intro entry
    rw [List.mem_filter, List.contains_iff_mem]
  rw [applicable?]
  cases hentries : redirects.filter (fun e => (spellings link).contains (redirectKey e)) with
  | nil =>
    refine absurd (fun entry he hs => ?_) h
    have hnone := (hmem entry).mpr ⟨he, hs⟩
    rw [hentries] at hnone
    exact List.not_mem_nil hnone
  | cons first entries =>
    obtain ⟨best, hbest, hin, hfirst⟩ := exists_foldl_moreSpecific first entries
    rw [hentries] at hmem
    exact ⟨best, hbest, isMostSpecific_iff.mpr ⟨(hmem best).mp hin, fun other ho hs =>
      hfirst other ((hmem other).mpr ⟨ho, hs⟩)⟩⟩

/-- The entry of a table that applies to a link is its most specific one. -/
theorem applicable?_eq_some_iff (htable : IsTable redirects) :
    applicable? redirects (spellings link) = some entry ↔
      IsMostSpecific redirects link entry := by
  constructor
  · intro happ
    have hmoved : ¬ Unmoved redirects link := fun hun =>
      Option.some_ne_none entry (happ.symm.trans (applicable?_eq_none hun))
    obtain ⟨best, hbest, hspec⟩ := exists_applicable? hmoved
    rwa [← Option.some.inj (hbest.symm.trans happ)]
  · intro hspec
    have hmoved : ¬ Unmoved redirects link := fun hun => hun entry hspec.mem hspec.about
    obtain ⟨best, hbest, hspec'⟩ := exists_applicable? hmoved
    rw [hbest, hspec'.unique htable hspec]

/-- It is the first one about the link when the table is walked in order of specificity. -/
theorem IsMostSpecific.find?_mergeSort (htable : IsTable redirects)
    (h : IsMostSpecific redirects link entry) :
    (redirects.mergeSort precedes).find? (fun e => redirectKey e ∈ spellings link) =
      some entry := by
  have hsorted : (redirects.mergeSort precedes).Pairwise fun a b => precedes a b = true :=
    @List.pairwise_mergeSort _ precedes (fun _ _ _ => precedes_trans)
      (fun a b => Bool.or_eq_true_iff.mpr (precedes_total a b)) redirects
  have hmem : entry ∈ redirects.mergeSort precedes := List.mem_mergeSort.mpr h.mem
  cases hfind : (redirects.mergeSort precedes).find? fun e => redirectKey e ∈ spellings link with
  | none =>
    have hnot := List.find?_eq_none.mp hfind entry hmem
    exact absurd (decide_eq_true h.about) hnot
  | some found =>
    obtain ⟨habout, front, back, heq, hfront⟩ := List.find?_eq_some_iff_append.mp hfind
    have hfound : found ∈ redirects := by
      apply List.mem_mergeSort.mp
      rw [heq]
      exact List.mem_append_right _ (List.mem_cons_self ..)
    -- No entry about the link stands in front of the one that was found.
    have hfirst : precedes found entry = true := by
      rw [heq, List.pairwise_append, List.pairwise_cons] at hsorted
      rw [heq, List.mem_append, List.mem_cons] at hmem
      rcases hmem with hin | rfl | hin
      · have hnot := hfront entry hin
        rw [decide_eq_true h.about] at hnot
        exact absurd hnot Bool.false_ne_true
      · exact (precedes_total _ _).elim id id
      · exact hsorted.2.1.1 entry hin
    have hback : precedes entry found = true :=
      (isMostSpecific_iff.mp h).2 found hfound (of_decide_eq_true habout)
    have hsource := source_eq_of_precedes hfirst hback
    exact congrArg some (List.inj_on_of_nodup_map htable hfound h.mem hsource)

/-- The order of a table does not matter. -/
theorem applicable?_perm (htable : IsTable redirects) {others : List Redirect}
    (hperm : others.Perm redirects) :
    applicable? others (spellings link) = applicable? redirects (spellings link) := by
  have hothers : IsTable others := (hperm.map Redirect.source).nodup_iff.mpr htable
  apply Option.ext
  intro entry
  rw [applicable?_eq_some_iff hothers, applicable?_eq_some_iff htable]
  exact ⟨fun h => h.of_subset hperm.symm.subset (hperm.subset h.mem),
    fun h => h.of_subset hperm.subset (hperm.symm.subset h.mem)⟩

end Choice

section Fragment

/-- A link with a fragment is longer in lower case than its page. -/
theorem length_lower_file_lt {file fragment : List Char} :
    (lower file).length < (lower (file ++ '#' :: fragment)).length := by
  rw [length_lower, length_lower, List.flatMap_append, List.flatMap_cons, List.length_append,
    List.length_append]
  have hmark : 0 < (lowerChar '#').length := List.length_pos_iff.mpr (lowerChar_ne_nil '#')
  omega

/-- If an entry names a link with its fragment, so does the most specific one. -/
theorem IsMostSpecific.key_eq {redirects : List Redirect} {link : List Char}
    {entry other : Redirect} (h : IsMostSpecific redirects link entry) (hmem : other ∈ redirects)
    (hkey : redirectKey other = lower link) : redirectKey entry = lower link := by
  have habout : redirectKey other ∈ spellings link := by
    rw [hkey]
    exact List.mem_cons_self ..
  have hlongest := h.longest other hmem habout
  rcases List.mem_cons.mp h.about with hwhole | hpage
  · exact hwhole
  · rw [List.mem_singleton] at hpage
    rcases cutAt_cases '#' link with ⟨-, hcut⟩ | ⟨file, fragment, hlink, -, hcut⟩
    · rw [hpage, hcut]
    · have hshort : (lower file).length < (lower link).length := by
        rw [hlink]
        exact length_lower_file_lt
      rw [hkey, hpage, hcut] at hlongest
      exact absurd hshort (Nat.not_lt.mpr hlongest)

end Fragment

section Resolution

variable {path : Option (List Char)} {redirects : List Redirect} {dest link : List Char}

/-- A destination reaches the table as `link`: it is a relative one on the print page, and `link` is
its path in the book. -/
structure IsLookedUp (context : Context) (dest link : List Char) : Prop where
  print : context.isPrint = true
  relative : IsRelative dest
  bookPath_eq : bookPath context dest = link
  inBook : Path.escapesRoot link = false

/-- What a link is on the print page depends on the table only through the entry that applies. -/
theorem toPrintPage_congr {others : List Redirect}
    (h : applicable? others (spellings link) = applicable? redirects (spellings link)) :
    toPrintPage others link = toPrintPage redirects link := by
  cases hentry : applicable? redirects (spellings link) with
  | none =>
    rw [toPrintPage_of_not_applicable hentry, toPrintPage_of_not_applicable (h.trans hentry)]
  | some entry =>
    rw [toPrintPage_of_applicable hentry, toPrintPage_of_applicable (h.trans hentry)]

theorem resolveLink_of_isLookedUp (h : IsLookedUp ⟨path, redirects⟩ dest link) :
    resolveLink ⟨path, redirects⟩ dest = toPrintPage redirects link := by
  have hin : Path.escapesRoot (bookPath ⟨path, redirects⟩ dest) = false := by
    rw [h.bookPath_eq, h.inBook]
  rw [resolveLink_of_inBook h.relative h.print hin, h.bookPath_eq]

/-- A destination that is not looked up is resolved without the table. -/
theorem resolveLink_eq_of_not_isLookedUp
    (h : ∀ link, ¬ IsLookedUp ⟨path, redirects⟩ dest link) (others : List Redirect) :
    resolveLink ⟨path, others⟩ dest = resolveLink ⟨path, redirects⟩ dest := by
  by_cases hmark : dest.head? = some '#'
  · rw [resolveLink_of_fragment hmark, resolveLink_of_fragment hmark]
    rfl
  · cases habs : isAbsolute dest with
    | true => rw [resolveLink_of_absolute habs, resolveLink_of_absolute habs]
    | false =>
      have hrelative : IsRelative dest := ⟨habs, hmark⟩
      have hbook : bookPath ⟨path, others⟩ dest = bookPath ⟨path, redirects⟩ dest := rfl
      cases hesc : Path.escapesRoot (bookPath ⟨path, redirects⟩ dest) with
      | true =>
        rw [resolveLink_of_escapesRoot hrelative hesc,
          resolveLink_of_escapesRoot hrelative (hbook ▸ hesc)]
        rfl
      | false =>
        cases path with
        | none => rfl
        | some path => exact absurd ⟨rfl, hrelative, rfl, hesc⟩ (h _)

/-- Resolution depends on the table only through the entry that applies. -/
theorem resolveLink_congr {others : List Redirect}
    (h : ∀ link, IsLookedUp ⟨path, redirects⟩ dest link →
      applicable? others (spellings link) = applicable? redirects (spellings link)) :
    resolveLink ⟨path, others⟩ dest = resolveLink ⟨path, redirects⟩ dest := by
  by_cases hlooked : ∃ link, IsLookedUp ⟨path, redirects⟩ dest link
  · obtain ⟨link, hlink⟩ := hlooked
    have hothers : IsLookedUp ⟨path, others⟩ dest link :=
      ⟨hlink.print, hlink.relative, hlink.bookPath_eq, hlink.inBook⟩
    rw [resolveLink_of_isLookedUp hlink, resolveLink_of_isLookedUp hothers,
      toPrintPage_congr (h link hlink)]
  · exact resolveLink_eq_of_not_isLookedUp (not_exists.mp hlooked) others

/-- The order of the table never matters, and on a page of its own nothing of it does. On the print
page a link that some entries are about is resolved by the most specific one of them, which is the
first that a walk in order of specificity meets and names the fragment of the link if any does; the
rest of the table may as well be missing. -/
theorem resolveLink_mostSpecific (htable : IsTable redirects) :
    (∀ path dest others, others.Perm redirects →
      resolveLink ⟨path, others⟩ dest = resolveLink ⟨path, redirects⟩ dest) ∧
    (∀ path dest link, IsLookedUp ⟨path, redirects⟩ dest link → ¬ Unmoved redirects link →
      ∃ entry, IsMostSpecific redirects link entry ∧
        (redirects.mergeSort precedes).find? (redirectKey · ∈ spellings link) = some entry ∧
        ((∃ other ∈ redirects, redirectKey other = lower link) → redirectKey entry = lower link) ∧
        resolveLink ⟨path, redirects⟩ dest =
          (follow entry (cutAt '#' link).1 (cutAt '#' link).2).onPrintPage ∧
        ∀ kept, kept.Sublist redirects → entry ∈ kept →
          resolveLink ⟨path, kept⟩ dest = resolveLink ⟨path, redirects⟩ dest) ∧
    ∀ dest others, resolveLink ⟨none, others⟩ dest = resolveLink ⟨none, redirects⟩ dest := by
  refine ⟨?_, ?_, ?_⟩
  · intro path dest others hperm
    exact resolveLink_congr fun _ _ => applicable?_perm htable hperm
  · intro path dest link hlink hmoved
    obtain ⟨entry, happ, hspec⟩ := exists_applicable? hmoved
    refine ⟨entry, hspec, hspec.find?_mergeSort htable, ?_, ?_, ?_⟩
    · rintro ⟨other, hmem, hkey⟩
      exact hspec.key_eq hmem hkey
    · rw [resolveLink_of_isLookedUp hlink, toPrintPage_of_applicable happ]
    · intro kept hkept hmem
      have hkeptTable : IsTable kept := htable.sublist (hkept.map Redirect.source)
      have hkeptApp : applicable? kept (spellings link) = some entry :=
        (applicable?_eq_some_iff hkeptTable).mpr (hspec.of_subset hkept.subset hmem)
      apply resolveLink_congr
      intro link' hlink'
      rw [← hlink'.bookPath_eq, hlink.bookPath_eq, hkeptApp, happ]
  · intro dest others
    refine resolveLink_eq_of_not_isLookedUp (fun link h => ?_) others
    exact Bool.false_ne_true h.print

/-- A table with an entry for a page and two spellings of one for a section of it. The section goes
where the spelling that comes first says, in either order and also without the other two. -/
theorem resolveLink_mostSpecific_section :
    let page : Redirect := ⟨"/old/page.html".toList, "a.html".toList⟩
    let first : Redirect := ⟨"/old/Page.html#sec".toList, "b.html".toList⟩
    let second : Redirect := ⟨"/old/page.html#sec".toList, "c.html".toList⟩
    let index : Option (List Char) := some "index.md".toList
    IsTable [page, second, first] ∧
      resolveLink ⟨index, [page, second, first]⟩ "old/page.md#sec".toList = "#old-b".toList ∧
      resolveLink ⟨index, [first, second, page]⟩ "old/page.md#sec".toList = "#old-b".toList ∧
      resolveLink ⟨index, [first]⟩ "old/page.md#sec".toList = "#old-b".toList ∧
      resolveLink ⟨none, [first]⟩ "old/page.md#sec".toList =
        resolveLink ⟨none, [page, second, first]⟩ "old/page.md#sec".toList := by
  intro page first second index
  have htable : IsTable [page, second, first] := by decide
  obtain ⟨hperm, hlookup, halone⟩ := resolveLink_mostSpecific htable
  have hlink : IsLookedUp ⟨index, [page, second, first]⟩ "old/page.md#sec".toList
      "old/page.html#sec".toList :=
    ⟨by decide, ⟨by decide, by decide⟩, by decide, by decide⟩
  have hresolved : resolveLink ⟨index, [page, second, first]⟩ "old/page.md#sec".toList =
      "#old-b".toList := by decide
  obtain ⟨entry, hspec, -, -, -, hkept⟩ := hlookup index _ _ hlink (by decide)
  have hentry : entry = first :=
    hspec.unique htable (isMostSpecific_iff.mpr ⟨by decide, by decide⟩)
  have hreverse : [first, second, page].Perm [page, second, first] :=
    List.reverse_perm [page, second, first]
  refine ⟨htable, hresolved, ?_, ?_, halone _ _⟩
  · rw [hperm index _ _ hreverse, hresolved]
  · rw [hkept [first] (by simp) (by simp [hentry]), hresolved]

end Resolution

end Folio.Link
