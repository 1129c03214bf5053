import Folio.Proofs.Link.Resolve

/-!
# Links to pages that have moved

Following an entry of the redirect table is the same as standing on the page that has moved and
following its target from there. Only a target that leaves the book is written differently: an entry
gives it in normal form.
-/

namespace Folio.Link

open Folio.Page Folio.Path Folio.Text

/-- A relative path as it is read from a directory. -/
def beside (dir target : List Char) : List Char :=
  if dir = [] then target else dir ++ '/' :: target

/-- A page reads relative paths from its directory. -/
theorem basePrefix_append (path : List Char) (redirects : List Redirect) (target : List Char) :
    Context.basePrefix ⟨some path, redirects⟩ ++ target = beside (parent path) target := by
  cases hdir : parent path with
  | nil =>
    simp only [Context.basePrefix, hdir]
    rfl
  | cons c dir =>
    simp only [Context.basePrefix, hdir, List.append_assoc]
    rfl

/-- The fragment of a link does not depend on the directory it is read from. -/
theorem withFragment_beside {dir : List Char} (h : '#' ∉ dir) (target : List Char)
    (fragment : Option (List Char)) :
    withFragment (beside dir target) fragment = beside dir (withFragment target fragment) := by
  rw [beside, beside]
  split
  · rfl
  · cases fragment with
    | none => rfl
    | some fragment =>
      have hmark : (dir ++ '/' :: target).contains '#' = target.contains '#' := by
        simp [h]
      rw [withFragment, withFragment, hmark, List.append_assoc, List.cons_append]

/-- A fragment behind a target leaves the file of the target as it is. -/
theorem exists_withFragment_eq (target : List Char) (fragment : Option (List Char)) :
    ∃ mark, withFragment target fragment = (cutAt '#' target).1 ++ withMark mark := by
  cases fragment with
  | none => exact ⟨(cutAt '#' target).2, (append_withMark_cutAt target).symm⟩
  | some fragment =>
    rcases cutAt_cases '#' target with ⟨hmark, hcut⟩ | ⟨file, behind, rfl, -, hcut⟩
    · refine ⟨some fragment, ?_⟩
      have hnot : target.contains '#' = false := by simp [hmark]
      rw [withFragment, hnot, hcut]
      rfl
    · refine ⟨some (behind ++ '-' :: fragment), ?_⟩
      have hhas : (file ++ '#' :: behind).contains '#' = true := by simp
      rw [withFragment, hhas, hcut, withMark, List.append_assoc]
      rfl

/-- An entry alone in its table applies to the links it is about. -/
theorem applicable?_singleton {entry : Redirect} {link : List Char}
    (h : redirectKey entry ∈ spellings link) :
    applicable? [entry] (spellings link) = some entry := by
  have hfilter : [entry].filter (fun e => (spellings link).contains (redirectKey e)) = [entry] :=
    List.filter_cons_of_pos (List.contains_iff_mem.mpr h)
  rw [applicable?, hfilter]
  rfl

/-- The source of an entry may be written with a slash in front of the path it is about. -/
theorem redirectKey_of_normalize {path target : List Char} (h : normalize path = path)
    (hhead : path.head? ≠ some '/') : redirectKey ⟨'/' :: path, target⟩ = lower path := by
  have hdrop : ('/' :: path).dropWhile (· = '/') = path := by
    rw [List.dropWhile_cons_of_pos rfl, dropWhile_mark_eq_self hhead]
  rw [redirectKey, hdrop, h]

section Place

variable {place : Place} {target : List Char} {fragment : Option (List Char)}

/-- The target of an entry about a page is read from the directory of the page. -/
theorem besidePage_page (h : target.head? ≠ some '/') :
    besidePage place.page target = beside place.dirPath target := by
  have hbase : (dropEndWhile (· = '/') (normalize (parent place.page))).dropWhile (· = '/') =
      place.dirPath := by
    rw [Place.parent_page, Place.dirPath, Place.settled_dir.normalize_eq,
      dropEndWhile_mark_eq_self Place.settled_dir.getLast?_ne,
      dropWhile_mark_eq_self Place.settled_dir.head?_ne]
  rw [besidePage, beside]
  simp only [hbase]
  rw [dropWhile_mark_eq_self h]

/-- On the page at a place a target without a chapter source in it is read as it is written. -/
theorem prefixed_source (h : ¬ sourceExtension <:+ (cutAt '#' target).1) :
    prefixed ⟨some place.source, []⟩ target = beside place.dirPath target := by
  rw [prefixed, pageExtension_eq_self h, basePrefix_append, Place.source,
    Place.parent_append isExtension_source]

/-- What a link to `target` becomes on the page at a place, where no page has moved; one that leaves
the book is taken in normal form. -/
def IsFollowedFrom (place : Place) (target link : List Char) : Prop :=
  (escapesRoot (normalize (beside (parent place.page) target)) = false →
    link = resolveLink ⟨some place.source, []⟩ target) ∧
  (escapesRoot (normalize (beside (parent place.page) target)) = true →
    link = normalize (resolveLink ⟨some place.source, []⟩ target))

/-- Resolving a target on the page at a place gives the fragment of the path beside the page. -/
theorem isFollowedFrom_toFragment (h : IsRelative target)
    (hsource : ¬ sourceExtension <:+ (cutAt '#' target).1) :
    IsFollowedFrom place target (toFragment (normalize (beside place.dirPath target))) := by
  have hprefixed : prefixed ⟨some place.source, []⟩ target = beside place.dirPath target :=
    prefixed_source hsource
  have hbook : bookPath ⟨some place.source, []⟩ target =
      normalize (beside place.dirPath target) := by
    rw [bookPath, hprefixed]
  rw [IsFollowedFrom, Place.parent_page]
  constructor
  · intro hin
    rw [resolveLink_of_inBook h rfl (hbook ▸ hin), hbook, toPrintPage_of_not_applicable rfl]
  · intro hesc
    rw [resolveLink_of_escapesRoot h (hbook ▸ hesc), hprefixed, toFragment, if_pos hesc]

/-- A link that an entry is about leads to the path beside the page that has moved. -/
theorem toPrintPage_moved {entry : Redirect} (h : IsRelative entry.target)
    (hkey : redirectKey entry ∈ spellings (place.page ++ withMark fragment)) :
    toPrintPage [entry] (place.page ++ withMark fragment) =
      toFragment (normalize (beside place.dirPath
        (withFragment entry.target (keptFragment entry fragment)))) := by
  have hscheme : hasScheme entry.target = false := (Bool.or_eq_false_iff.mp h.not_absolute).1
  have hslash : entry.target.head? ≠ some '/' :=
    beq_eq_false_iff_ne.mp (Bool.or_eq_false_iff.mp h.not_absolute).2
  rw [toPrintPage_of_applicable (applicable?_singleton hkey),
    cutAt_append_withMark Place.mark_not_mem_page, follow_of_not_hasScheme hscheme,
    besidePage_page hslash, withFragment_beside Place.mark_not_mem_dirPath]
  rfl

/-- A target with a fragment behind it is relative and names no chapter source, if that holds of the
target alone. -/
private theorem withFragment_spec (hne : target ≠ []) (h : IsRelative target)
    (hsource : ¬ sourceExtension <:+ (cutAt '#' target).1) (fragment : Option (List Char)) :
    IsRelative (withFragment target fragment) ∧
      ¬ sourceExtension <:+ (cutAt '#' (withFragment target fragment)).1 := by
  obtain ⟨mark, hmark⟩ := exists_withFragment_eq target fragment
  obtain ⟨hfile, hfileNe⟩ := h.file hne
  rw [hmark, cutAt_append_withMark (not_mem_cutAt '#' target)]
  exact ⟨hfile.append_withMark hfileNe mark, hsource⟩

/-- The source of an entry about a page or a fragment of it is the normal form of links to it. -/
private theorem redirectKey_page (h : ∀ f, fragment = some f → WithinSegment f)
    (target : List Char) :
    redirectKey ⟨'/' :: (place.page ++ withMark fragment), target⟩ =
      lower (place.page ++ withMark fragment) := by
  have hext : IsExtension (htmlExtension ++ withMark fragment) := isExtension_withMark h
  rw [Place.page_append]
  exact redirectKey_of_normalize (Place.normalize_append hext) (Place.head?_append_ne hext)

/-- A link to a page that has moved becomes what its target is on that page. The fragment of the
link goes behind the target, unless the entry names that fragment itself. -/
theorem resolveLink_moved {context : Context} {dest : List Char} (hprint : context.isPrint = true)
    (hdest : IsRelative dest) (hbook : bookPath context dest = place.page ++ withMark fragment)
    (hfragment : ∀ f, fragment = some f → WithinSegment f) (hne : target ≠ [])
    (htarget : IsRelative target) (hsource : ¬ sourceExtension <:+ (cutAt '#' target).1) :
    (context.redirects = [⟨'/' :: place.page, target⟩] →
      IsFollowedFrom place (withFragment target fragment) (resolveLink context dest)) ∧
    ∀ f, fragment = some f → context.redirects = [⟨'/' :: (place.page ++ '#' :: f), target⟩] →
      IsFollowedFrom place target (resolveLink context dest) := by
  have hin : escapesRoot (bookPath context dest) = false := by
    rw [hbook, escapesRoot_page hfragment]
  have hlink : resolveLink context dest =
      toPrintPage context.redirects (place.page ++ withMark fragment) := by
    rw [resolveLink_of_inBook hdest hprint hin, hbook]
  have hcut : (cutAt '#' (place.page ++ withMark fragment)).1 = place.page := by
    rw [cutAt_append_withMark Place.mark_not_mem_page]
  constructor
  · intro hredirects
    have hpage : redirectKey ⟨'/' :: place.page, target⟩ = lower place.page := by
      have hnone : ∀ f, (none : Option (List Char)) = some f → WithinSegment f := nofun
      have hkey : redirectKey ⟨'/' :: (place.page ++ withMark none), target⟩ =
          lower (place.page ++ withMark none) := redirectKey_page hnone target
      rwa [withMark, List.append_nil] at hkey
    have hkey : redirectKey ⟨'/' :: place.page, target⟩ ∈
        spellings (place.page ++ withMark fragment) := by
      rw [hpage, spellings, hcut]
      exact List.mem_cons_of_mem _ (List.mem_singleton_self _)
    have hmark : ¬ ('/' :: place.page).contains '#' = true := by
      simp [Place.mark_not_mem_page]
    have hkept : keptFragment ⟨'/' :: place.page, target⟩ fragment = fragment := if_neg hmark
    obtain ⟨hrelative, hnot⟩ := withFragment_spec hne htarget hsource fragment
    rw [hlink, hredirects, toPrintPage_moved htarget hkey, hkept]
    exact isFollowedFrom_toFragment hrelative hnot
  · rintro f rfl hredirects
    have hkey : redirectKey ⟨'/' :: (place.page ++ '#' :: f), target⟩ ∈
        spellings (place.page ++ withMark (some f)) := by
      rw [← withMark, redirectKey_page hfragment, spellings]
      exact List.mem_cons_self ..
    have hmark : ('/' :: (place.page ++ '#' :: f)).contains '#' = true := by simp
    have hkept : keptFragment ⟨'/' :: (place.page ++ '#' :: f), target⟩ (some f) = none :=
      if_pos hmark
    rw [hlink, hredirects, toPrintPage_moved htarget hkey, hkept]
    exact isFollowedFrom_toFragment htarget hsource

/-- A link to a section of a page that has moved into another directory. -/
theorem resolveLink_moved_section :
    IsFollowedFrom ⟨["old".toList], "page".toList, by decide, by decide, by decide⟩
        "../new/guide.html#part-top".toList
        (resolveLink ⟨some "start.md".toList,
          [⟨"/old/page.html".toList, "../new/guide.html#part".toList⟩]⟩
          "old/page.md#top".toList) ∧
      IsFollowedFrom ⟨["old".toList], "page".toList, by decide, by decide, by decide⟩
        "../new/guide.html#part".toList
        (resolveLink ⟨some "start.md".toList,
          [⟨"/old/page.html#top".toList, "../new/guide.html#part".toList⟩]⟩
          "old/page.md#top".toList) := by
  have hfragment : ∀ f, some "top".toList = some f → WithinSegment f := by
    rintro f ⟨⟩
    decide
  have hwhole := @resolveLink_moved
    ⟨["old".toList], "page".toList, by decide, by decide, by decide⟩
    "../new/guide.html#part".toList (some "top".toList)
    ⟨some "start.md".toList, [⟨"/old/page.html".toList, "../new/guide.html#part".toList⟩]⟩
    "old/page.md#top".toList (by decide) ⟨by decide, by decide⟩ (by decide) hfragment (by decide)
    ⟨by decide, by decide⟩ (by decide)
  have hpart := @resolveLink_moved
    ⟨["old".toList], "page".toList, by decide, by decide, by decide⟩
    "../new/guide.html#part".toList (some "top".toList)
    ⟨some "start.md".toList, [⟨"/old/page.html#top".toList, "../new/guide.html#part".toList⟩]⟩
    "old/page.md#top".toList (by decide) ⟨by decide, by decide⟩ (by decide) hfragment (by decide)
    ⟨by decide, by decide⟩ (by decide)
  exact ⟨hwhole.1 (by decide), hpart.2 _ rfl (by decide)⟩

end Place

end Folio.Link
