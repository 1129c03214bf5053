import Folio.Proofs.Link.Resolve
import Folio.Proofs.Path.Anchor

/-!
# Links on the print page

The chapters of the print page have no files of their own, so a link into the book must lead to a
fragment of the page. Every other link that resolution leaves behind is absolute, leads to an
address that the redirect table names, or leaves the book.
-/

namespace Folio.Link

open Folio.Page Folio.Path Folio.Text

/-- A fragment of the page itself. Only a destination that was one already may bring slashes. -/
def IsSamePage (dest link : List Char) : Prop :=
  ∃ name, link = '#' :: name ∧ '#' ∉ name ∧ (dest.head? ≠ some '#' → '/' ∉ name)

/-- A link to an address of its own that the redirect table names. -/
def IsRedirectedAddress (redirects : List Redirect) (link : List Char) : Prop :=
  ∃ entry ∈ redirects, hasScheme entry.target = true ∧ entry.target <+: link

/-- A path in the book becomes a fragment of the page. -/
private theorem isSamePage_toFragment (dest : List Char) {path : List Char}
    (h : escapesRoot path = false) : IsSamePage dest (toFragment path) :=
  ⟨anchor path, toFragment_of_inBook h, mark_not_mem_anchor path,
    fun _ => slash_not_mem_anchor path⟩

/-- A fragment of the chapter becomes one of the page. -/
private theorem isSamePage_resolveFragment {context : Context} (hprint : context.isPrint = true)
    {dest : List Char} (h : dest.head? = some '#') :
    IsSamePage dest (resolveFragment context dest) := by
  refine ⟨context.pageId ++ dest.map fun c => if c = '#' then '-' else c, ?_, ?_,
    fun hne => absurd h hne⟩
  · rw [resolveFragment, if_pos hprint, List.cons_append]
  · rw [List.mem_append, not_or]
    constructor
    · cases hpath : context.path with
      | none =>
        rw [Context.pageId, hpath]
        exact List.not_mem_nil
      | some path =>
        rw [Context.pageId, hpath]
        exact mark_not_mem_anchor _
    · intro hmark
      rcases mem_map_ite hmark with hhyphen | ⟨-, hne⟩
      · exact absurd hhyphen (by decide)
      · exact hne rfl

/-- A path that leaves the book still does so once it is written on the page. -/
private theorem isSamePage_or_escapes_toFragment (dest path : List Char) :
    IsSamePage dest (toFragment (normalize path)) ∨
      escapesRoot (normalize (toFragment (normalize path))) = true := by
  by_cases hesc : escapesRoot (normalize path) = true
  · right
    rw [toFragment, if_pos hesc, normalize_normalize, hesc]
  · exact Or.inl (isSamePage_toFragment dest (Bool.eq_false_iff.mpr hesc))

/-- A looked up link stays on the page, is an address of the table, or leaves the book. -/
private theorem toPrintPage_shape (redirects : List Redirect) (dest path : List Char) :
    IsSamePage dest (toPrintPage redirects (normalize path)) ∨
      IsRedirectedAddress redirects (toPrintPage redirects (normalize path)) ∨
      escapesRoot (normalize (toPrintPage redirects (normalize path))) = true := by
  cases happ : applicable? redirects (spellings (normalize path)) with
  | none =>
    rw [toPrintPage_of_not_applicable happ]
    rcases isSamePage_or_escapes_toFragment dest path with hsame | hesc
    · exact Or.inl hsame
    · exact Or.inr (Or.inr hesc)
  | some entry =>
    rw [toPrintPage_of_applicable happ]
    cases hscheme : hasScheme entry.target with
    | true =>
      rw [follow_of_hasScheme hscheme]
      exact Or.inr (Or.inl ⟨entry, mem_of_applicable? happ, hscheme, prefix_withFragment _ _⟩)
    | false =>
      rw [follow_of_not_hasScheme hscheme]
      rcases isSamePage_or_escapes_toFragment dest (withFragment _ _) with hsame | hesc
      · exact Or.inl hsame
      · exact Or.inr (Or.inr hesc)

/-- A context built for a chapter belongs to the print page and has the table it was built with. -/
private theorem isPrint_of_build {units : List RawUnit} {redirects : List Redirect}
    {context : Context} (h : Context.build (some units) redirects = .ok context) :
    context.isPrint = true ∧ context.redirects = redirects := by
  rw [Context.build] at h
  cases hchars : chars? units with
  | none =>
    rw [hchars] at h
    cases h
  | some path =>
    rw [hchars] at h
    rw [← Except.ok.inj h]
    exact ⟨rfl, rfl⟩

/-- A destination that the redirect table keeps in the book: it points into the book, and so does
the target of the entry that applies to it, if there is one. -/
structure StaysInBook (context : Context) (dest : List Char) : Prop where
  inBook : escapesRoot (bookPath context dest) = false
  followed : ∀ entry,
    applicable? context.redirects (spellings (bookPath context dest)) = some entry →
    hasScheme entry.target = false ∧
    ∀ path, follow entry (cutAt '#' (bookPath context dest)).1
      (cutAt '#' (bookPath context dest)).2 = .inBook path → escapesRoot path = false

private theorem isSamePage_of_staysInBook {context : Context} {dest : List Char}
    (hprint : context.isPrint = true) (hrelative : IsRelative dest) (h : StaysInBook context dest) :
    IsSamePage dest (resolveLink context dest) := by
  rw [resolveLink_of_inBook hrelative hprint h.inBook]
  cases happ : applicable? context.redirects (spellings (bookPath context dest)) with
  | none =>
    rw [toPrintPage_of_not_applicable happ]
    exact isSamePage_toFragment dest h.inBook
  | some entry =>
    obtain ⟨hscheme, hpath⟩ := h.followed entry happ
    rw [toPrintPage_of_applicable happ, follow_of_not_hasScheme hscheme]
    exact isSamePage_toFragment dest (hpath _ (follow_of_not_hasScheme hscheme _ _))

/-- On the print page absolute destinations stay as they are, and no other destination survives as
a path in the book: it becomes a fragment of the page, leads to an address of the redirect table, or
leaves the book. One that stays in the book, redirected or not, becomes a fragment. -/
theorem resolveLink_printPage {units : List RawUnit} {redirects : List Redirect}
    {context : Context} (hbuild : Context.build (some units) redirects = .ok context)
    (dest : List Char) :
    (isAbsolute dest = true → resolveLink context dest = dest) ∧
    (isAbsolute dest = false →
      IsSamePage dest (resolveLink context dest) ∨
      IsRedirectedAddress redirects (resolveLink context dest) ∨
      escapesRoot (normalize (resolveLink context dest)) = true) ∧
    (isAbsolute dest = false → StaysInBook context dest →
      IsSamePage dest (resolveLink context dest)) := by
  obtain ⟨hprint, rfl⟩ := isPrint_of_build hbuild
  refine ⟨resolveLink_of_absolute, ?_, ?_⟩
  · intro habsolute
    by_cases hmark : dest.head? = some '#'
    · rw [resolveLink_of_fragment hmark]
      exact Or.inl (isSamePage_resolveFragment hprint hmark)
    · have hrelative : IsRelative dest := ⟨habsolute, hmark⟩
      cases hesc : escapesRoot (bookPath context dest) with
      | true =>
        rw [resolveLink_of_escapesRoot hrelative hesc]
        exact Or.inr (Or.inr hesc)
      | false =>
        rw [resolveLink_of_inBook hrelative hprint hesc]
        exact toPrintPage_shape context.redirects dest (prefixed context dest)
  · intro habsolute hstays
    by_cases hmark : dest.head? = some '#'
    · rw [resolveLink_of_fragment hmark]
      exact isSamePage_resolveFragment hprint hmark
    · exact isSamePage_of_staysInBook hprint ⟨habsolute, hmark⟩ hstays

/-- A link to a page that has moved within the book, and one that leaves the book. -/
theorem resolveLink_printPage_moved :
    IsSamePage "../old.md#top".toList
        (resolveLink ⟨some "guide/start.md".toList, [⟨"/old.html".toList, "new.md".toList⟩]⟩
          "../old.md#top".toList) ∧
      (IsSamePage "../../a.md".toList
        (resolveLink ⟨some "guide/start.md".toList, [⟨"/old.html".toList, "new.md".toList⟩]⟩
          "../../a.md".toList) ∨
      IsRedirectedAddress [⟨"/old.html".toList, "new.md".toList⟩]
        (resolveLink ⟨some "guide/start.md".toList, [⟨"/old.html".toList, "new.md".toList⟩]⟩
          "../../a.md".toList) ∨
      escapesRoot (normalize
        (resolveLink ⟨some "guide/start.md".toList, [⟨"/old.html".toList, "new.md".toList⟩]⟩
          "../../a.md".toList)) = true) := by
  have hbuild : Context.build (some ("guide/start.md".toList.map .char))
      [⟨"/old.html".toList, "new.md".toList⟩] =
        .ok ⟨some "guide/start.md".toList, [⟨"/old.html".toList, "new.md".toList⟩]⟩ := rfl
  have hstays : StaysInBook
      ⟨some "guide/start.md".toList, [⟨"/old.html".toList, "new.md".toList⟩]⟩
      "../old.md#top".toList := by
    refine ⟨by decide, fun entry hentry => ?_⟩
    have happ : applicable? [⟨"/old.html".toList, "new.md".toList⟩]
        ["old.html#top".toList, "old.html".toList] =
          some ⟨"/old.html".toList, "new.md".toList⟩ := by decide
    obtain rfl := Option.some.inj (happ.symm.trans hentry)
    refine ⟨by decide, fun path hpath => ?_⟩
    have hfollow : follow ⟨"/old.html".toList, "new.md".toList⟩ "old.html".toList
        (some "top".toList) = .inBook "new.md#top".toList := by decide
    obtain rfl := Destination.inBook.inj (hfollow.symm.trans hpath)
    decide
  exact ⟨(resolveLink_printPage hbuild _).2.2 (by decide) hstays,
    (resolveLink_printPage hbuild _).2.1 (by decide)⟩

end Folio.Link
