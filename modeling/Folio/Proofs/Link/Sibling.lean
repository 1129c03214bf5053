import Folio.Proofs.Link.CrossChapter
import Folio.Proofs.Path.Behind

/-!
# Links to the page beside

The links of a chapter count from the directory that its path is spelled with, the part in front of
the last slash. Its page id is made of the directory that the path is resolved to, backslashes
counting as slashes. The two agree unless a backslash stands behind the last slash: there the page
id enters directories that the links do not.
-/

namespace Folio.Link

open Folio.Page Folio.Path Folio.Text

/-- What stands behind the last slash of a path; backslashes belong to it. -/
def lastPart (path : List Char) : List Char := (splitAt '/' path).getLastD []

/-- A path of a chapter in the book, in any spelling. -/
structure IsBookPath (path : List Char) : Prop where
  no_slash_first : path.head? ≠ some '/'
  no_backslash_first : path.head? ≠ some '\\'
  no_mark : '#' ∉ path
  is_source : sourceExtension <:+ path
  in_book : escapesRoot (normalize path) = false

/-- The path of another file in the directory that a path is resolved to. -/
def sibling (path file : List Char) : List Char :=
  joinWith ['/'] ((splitAt '/' (normalize path)).dropLast ++ [file])

section Directory

variable {path : List Char}

theorem dropLast_append_lastPart (path : List Char) :
    (splitAt '/' path).dropLast ++ [lastPart path] = splitAt '/' path :=
  dropLast_append_lastPiece '/' path

theorem slash_not_mem_lastPart (path : List Char) : '/' ∉ lastPart path := by
  have hmem : lastPart path ∈ splitAt '/' path := by
    rw [← dropLast_append_lastPart path]
    exact List.mem_append_right _ (List.mem_singleton_self _)
  exact not_mem_of_mem_splitAt hmem

/-- A path with a slash is what stands in front of the last one and what stands behind it. -/
theorem exists_append_lastPart (h : '/' ∈ path) :
    ∃ front, path = front ++ '/' :: lastPart path := by
  have hne : (splitAt '/' path).dropLast ≠ [] := by
    intro hnil
    have hsplit := dropLast_append_lastPart path
    rw [hnil, List.nil_append] at hsplit
    have hpath := joinWith_splitAt '/' path
    rw [← hsplit, joinWith] at hpath
    exact slash_not_mem_lastPart path (hpath.symm ▸ h)
  refine ⟨joinWith ['/'] (splitAt '/' path).dropLast, ?_⟩
  have hjoin := joinWith_splitAt '/' path
  rw [← dropLast_append_lastPart path, joinWith_concat hne, List.append_assoc] at hjoin
  exact hjoin.symm

theorem isRooted_eq_false (hslash : path.head? ≠ some '/') (hback : path.head? ≠ some '\\') :
    isRooted path = false := by
  cases path with
  | nil => rfl
  | cons c path =>
    have hc : c ≠ '/' := fun he => hslash (congrArg some he)
    have hc' : c ≠ '\\' := fun he => hback (congrArg some he)
    rw [isRooted, withSlashes, List.map_cons, List.head?_cons, if_neg hc']
    exact beq_eq_false_iff_ne.mpr fun he => hc (Option.some.inj he)

/-- Nothing of the prefix of a page belongs to the file behind it. -/
theorem fileName_basePrefix (context : Context) : fileName context.basePrefix = [] := by
  cases hpath : context.path with
  | none =>
    simp only [Context.basePrefix, hpath]
    rfl
  | some path =>
    cases hdir : parent path with
    | nil =>
      simp only [Context.basePrefix, hpath, hdir]
      rfl
    | cons c dir =>
      simp only [Context.basePrefix, hpath, hdir]
      rw [fileName, segmentsOf_concat_slash, List.getLastD_concat]

/-- Links count from what stands in front of the slashes before a file. -/
theorem directory_basePrefix_append {front file : List Char} (hfile : '/' ∉ file)
    (hrooted : isRooted (front ++ '/' :: file) = false) (redirects : List Redirect) :
    directory (Context.basePrefix ⟨some (front ++ '/' :: file), redirects⟩) =
      resolve false (segmentsOf front) := by
  have hne : front ≠ [] := by
    rintro rfl
    exact Bool.false_ne_true hrooted.symm
  rw [isRooted_append hne] at hrooted
  have hhead : front.head? ≠ some '/' := by
    intro hh
    obtain ⟨rest, rfl⟩ := List.head?_eq_some_iff.mp hh
    exact Bool.false_ne_true hrooted.symm
  have hparent := parent_append_file hfile hne hhead
  have hdir : dropEndWhile (· = '/') front ≠ [] := by
    intro hnil
    obtain ⟨c, rest, rfl⟩ := List.exists_cons_of_ne_nil hne
    have hc := List.rdropWhile_eq_nil_iff.mp hnil c List.mem_cons_self
    exact hhead (congrArg some (of_decide_eq_true hc))
  have hbase : Context.basePrefix ⟨some (front ++ '/' :: file), redirects⟩ =
      dropEndWhile (· = '/') front ++ ['/'] := by
    obtain ⟨c, rest, hcons⟩ := List.exists_cons_of_ne_nil hdir
    simp only [Context.basePrefix, hparent, hcons]
  have hrooted' : isRooted (dropEndWhile (· = '/') front) = false := by
    obtain ⟨slashes, hfront⟩ := dropEndWhile_isPrefix (· = '/') front
    rw [← isRooted_append hdir slashes, hfront, hrooted]
  rw [hbase, directory, isRooted_append hdir, hrooted', segmentsOf_concat_slash,
    List.dropLast_concat, resolve_segmentsOf_dropSlashes]

/-- The directory that links count from is resolved from the segments in front of the last slash. -/
theorem exists_directory_basePrefix (hrooted : isRooted path = false) (redirects : List Redirect) :
    ∃ front, segmentsOf path = front ++ segmentsOf (lastPart path) ∧
      directory (Context.basePrefix ⟨some path, redirects⟩) = resolve false front := by
  have hfile := slash_not_mem_lastPart path
  by_cases hslash : '/' ∈ path
  · obtain ⟨front, hpath⟩ := exists_append_lastPart hslash
    generalize lastPart path = file at hfile hpath ⊢
    subst hpath
    exact ⟨segmentsOf front, segmentsOf_append_slash front file,
      directory_basePrefix_append hfile hrooted redirects⟩
  · refine ⟨[], ?_, ?_⟩
    · rw [lastPart, splitAt_of_not_mem hslash]
      rfl
    · simp only [Context.basePrefix, parent_of_not_mem hslash]
      rfl

/-- Without backslashes behind the last slash, links count from the directory of the page. -/
theorem directory_basePrefix (hrooted : isRooted path = false) (redirects : List Redirect)
    (hback : '\\' ∉ lastPart path) :
    directory (Context.basePrefix ⟨some path, redirects⟩) = directory path := by
  obtain ⟨front, hsegments, hdir⟩ := exists_directory_basePrefix hrooted redirects
  have hlast : segmentsOf (lastPart path) = [lastPart path] := by
    rw [segmentsOf, withSlashes_eq_self hback, splitAt_of_not_mem (slash_not_mem_lastPart path)]
  rw [hdir, directory, hrooted, hsegments, hlast, List.dropLast_concat]

/-- What is resolved from the front of a path in the book is made of plain names. -/
theorem isPlain_of_mem_resolve {front : List (List Char)} (hmark : '#' ∉ path)
    (hin : ¬ GoesAbove (segmentsOf path)) (hfront : front <+: segmentsOf path) {name : List Char}
    (hn : name ∈ resolve false front) : IsPlain name := by
  obtain ⟨climbs, names, hcomes⟩ := exists_comesTo false front
  obtain ⟨rest, hsegments⟩ := hfront
  have hclimbs : climbs = 0 := by
    by_contra hne
    have habove := (hcomes.climbs_pos_iff_goesAbove rfl).mp (Nat.pos_of_ne_zero hne)
    exact hin (hsegments ▸ habove.append rest)
  have hmem : ∀ segment ∈ front, segment ∈ segmentsOf path :=
    fun segment hs => hsegments ▸ List.mem_append_left rest hs
  have hsettled := hcomes.settled fun segment hs =>
    withinSegment_of_mem_segmentsOf (hmem segment hs)
  have hsegment : name ∈ segmentsOf path := hmem name (resolve_subset _ _ hn)
  rw [hsettled.eq_append, hclimbs] at hn
  refine ⟨hsettled.isName name hn, fun hm => hmark ?_⟩
  exact ((mem_map_ite (mem_of_mem_splitAt hsegment hm)).resolve_left (by decide)).1

end Directory

namespace IsBookPath

variable {path : List Char} (h : IsBookPath path)
include h

theorem isRooted_eq : isRooted path = false :=
  isRooted_eq_false h.no_slash_first h.no_backslash_first

theorem not_goesAbove : ¬ GoesAbove (segmentsOf path) := fun habove =>
  Bool.eq_false_iff.mp h.in_book ((escapesRoot_normalize_iff path).mpr ⟨h.isRooted_eq, habove⟩)

theorem isPlain_directory {name : List Char} (hn : name ∈ directory path) : IsPlain name := by
  have hfront : (segmentsOf path).dropLast <+: segmentsOf path := List.dropLast_prefix _
  rw [directory, h.isRooted_eq] at hn
  exact isPlain_of_mem_resolve h.no_mark h.not_goesAbove hfront hn

theorem isPlain_basePrefix {name : List Char}
    (hn : name ∈ directory (Context.basePrefix ⟨some path, []⟩)) : IsPlain name := by
  obtain ⟨front, hsegments, hdir⟩ := exists_directory_basePrefix h.isRooted_eq []
  rw [hdir] at hn
  exact isPlain_of_mem_resolve h.no_mark h.not_goesAbove ⟨_, hsegments.symm⟩ hn

end IsBookPath

section Letters

/-- Without a colon there is no scheme. -/
theorem hasScheme_of_not_mem {cs : List Char} (h : ':' ∉ cs) : hasScheme cs = false := by
  cases cs with
  | nil => rfl
  | cons c cs =>
    rw [hasScheme, Bool.and_eq_false_imp]
    intro _
    refine beq_eq_false_iff_ne.mpr fun hcolon => h (List.mem_cons_of_mem c ?_)
    exact (List.dropWhile_suffix _).subset (List.mem_of_head? hcolon)

/-- A stem of small letters. -/
@[mk_iff] structure IsSmallName (stem : List Char) : Prop where
  ne_nil : stem ≠ []
  isLower : ∀ c ∈ stem, c.isLower = true

instance (stem : List Char) : Decidable (IsSmallName stem) :=
  have : Decidable (∀ c ∈ stem, c.isLower = true) := List.decidableBAll _ stem
  decidable_of_iff _ (isSmallName_iff stem).symm

theorem small_of_mem_htmlExtension {c : Char} (hc : c ∈ htmlExtension) :
    c.val < 128 ∧ c.toLower = c := by
  simp only [htmlExtension, List.mem_cons, List.not_mem_nil, or_false] at hc
  rcases hc with rfl | rfl | rfl | rfl | rfl <;> decide

namespace IsSmallName

variable {stem : List Char} (h : IsSmallName stem)
include h

theorem not_mem {c : Char} (hc : c.isLower = false) : c ∉ stem :=
  fun hmem => Bool.false_ne_true (hc.symm.trans (h.isLower c hmem))

theorem withinSegment : WithinSegment stem := ⟨h.not_mem (by decide), h.not_mem (by decide)⟩

theorem isName : IsName stem := by
  obtain ⟨c, rest, rfl⟩ := List.exists_cons_of_ne_nil h.ne_nil
  exact isName_of_mem h.withinSegment List.mem_cons_self
    fun hc => h.not_mem (c := '.') (by decide) (hc ▸ List.mem_cons_self)

/-- It is its own lower-case form, also with the extension of a page. -/
theorem lower_append (ext : List Char) (hext : ∀ c ∈ ext, c.val < 128 ∧ c.toLower = c) :
    lower (stem ++ ext) = stem ++ ext := by
  refine lower_eq_self_of_small (List.forall_mem_append.mpr ⟨fun c hc => ?_, hext⟩)
  have hlower := Bool.and_eq_true_iff.mp (h.isLower c hc)
  have hlow : 97 ≤ c.val.toNat := of_decide_eq_true hlower.1
  have hhigh : c.val.toNat ≤ 122 := of_decide_eq_true hlower.2
  have hcapital : ¬ (c.val ≥ 'A'.val ∧ c.val ≤ 'Z'.val) := by
    rintro ⟨-, hz⟩
    have hz' : c.val.toNat ≤ 90 := hz
    omega
  exact ⟨Nat.lt_of_le_of_lt hhigh (by decide), dif_neg hcapital⟩

theorem isAbsolute_eq : isAbsolute (stem ++ sourceExtension) = false := by
  have hslash : stem.head? ≠ some '/' := fun hh => h.withinSegment.1 (List.mem_of_head? hh)
  rw [isAbsolute_append (by decide) (by decide), isAbsolute,
    hasScheme_of_not_mem (h.not_mem (by decide)), beq_eq_false_iff_ne.mpr hslash]
  rfl

end IsSmallName

end Letters

section Sibling

variable {path stem : List Char} (h : IsBookPath path) (hstem : IsSmallName stem)

/-- The place of a file beside a chapter, as links from the chapter find it. -/
def linkedPlace : Place where
  dir := directory (Context.basePrefix ⟨some path, []⟩)
  stem := stem
  dir_isPlain _ hn := h.isPlain_basePrefix hn
  stem_within := hstem.withinSegment
  stem_no_mark := hstem.not_mem (by decide)

/-- The place of a file beside a chapter in the book. -/
def siblingPlace : Place where
  dir := directory path
  stem := stem
  dir_isPlain _ hn := h.isPlain_directory hn
  stem_within := hstem.withinSegment
  stem_no_mark := hstem.not_mem (by decide)

include hstem

/-- Anchors lead to a page with a small name in a directory by the directory and the name. -/
theorem anchor_page_of_small {place : Place} (hplace : place.stem = stem) :
    anchor place.page = dirAnchor place.dir ++ stem := by
  have hslash : '/' ∉ place.stem ++ htmlExtension :=
    (place.stem_within.append isExtension_page.within).1
  have hlower : lower (place.stem ++ htmlExtension) = stem ++ htmlExtension :=
    hplace ▸ hstem.lower_append htmlExtension fun _ => small_of_mem_htmlExtension
  rw [anchor_eq, flattened_of_not_mem Place.mark_not_mem_page, Place.page, Place.base_append,
    lower_hyphened_concat hslash, hlower, ← List.append_assoc, dropSuffix_append]

/-- So do page ids. -/
theorem pageId_source_of_small {place : Place} (hplace : place.stem = stem) :
    pageId place.source = dirAnchor place.dir ++ stem := by
  have hlower : lower place.stem = stem := by
    have hself := hstem.lower_append [] nofun
    rw [List.append_nil] at hself
    rw [hplace, hself]
  have hpage : ¬ htmlExtension <:+ lower place.stem := fun hs =>
    hstem.not_mem (c := '.') (by decide) (hlower ▸ hs.subset (by decide))
  rw [Place.pageId_source_of_stem (hplace ▸ hstem.isName) hpage, Place.base,
    lower_hyphened_concat place.stem_within.1, hlower]

include h

/-- A link to a file beside a chapter leads into the directory that links count from. -/
theorem resolveLink_beside :
    resolveLink ⟨some path, []⟩ (stem ++ sourceExtension) =
      '#' :: (dirAnchor (directory (Context.basePrefix ⟨some path, []⟩)) ++ stem) := by
  let place := linkedPlace h hstem
  have hmark : '#' ∉ stem ++ sourceExtension := by
    rw [List.mem_append, not_or]
    exact ⟨place.stem_no_mark, by decide⟩
  have hpath : normalize (Context.basePrefix ⟨some path, []⟩ ++ (stem ++ sourceExtension)) =
      place.source := by
    rw [← List.append_assoc, Place.normalize_append_ext isExtension_source,
      directory_append _ hstem.withinSegment, fileName_append _ hstem.withinSegment,
      fileName_basePrefix, List.nil_append, Place.source, Place.base_append]
    rfl
  have hlink := resolveLink_of_source none rfl hmark hstem.isAbsolute_eq (List.suffix_append _ _)
    hpath (fun _ he => absurd he.symm (Option.some_ne_none _))
    fun _ he => absurd he List.not_mem_nil
  simp only [withMark, List.append_nil] at hlink
  rw [hlink, anchor_page_of_small hstem rfl]
  rfl

/-- The page id of the file counts from the directory of the chapter. -/
theorem pageId_sibling :
    pageId (sibling path (stem ++ sourceExtension)) = dirAnchor (directory path) ++ stem := by
  obtain ⟨front, hpath⟩ := h.is_source
  have hfile : HasFile path := hpath ▸ isExtension_source.hasFile_append front
  have hsource : sibling path (stem ++ sourceExtension) = (siblingPlace h hstem).source := by
    rw [sibling, hfile.splitAt_normalize, List.dropLast_concat, Place.source, Place.base_append]
    rfl
  rw [hsource, pageId_source_of_small hstem rfl]
  rfl

/-- A link to a file beside a chapter leads into the directory in front of the last slash of its
path, and the page id of that file begins with the directory that the path is resolved to. So the
link names the page id exactly if the two directories have one name in anchors. They are the same
directory if no backslash stands behind the last slash. -/
theorem resolveLink_sibling :
    let context : Context := ⟨some path, []⟩
    let file := stem ++ sourceExtension
    resolveLink context file = '#' :: (dirAnchor (directory context.basePrefix) ++ stem) ∧
      pageId (sibling path file) = dirAnchor (directory path) ++ stem ∧
      (resolveLink context file = '#' :: pageId (sibling path file) ↔
        dirAnchor (directory context.basePrefix) = dirAnchor (directory path)) ∧
      ('\\' ∉ lastPart path → resolveLink context file = '#' :: pageId (sibling path file)) := by
  intro context file
  have hlink := resolveLink_beside h hstem
  have hsibling := pageId_sibling h hstem
  have hiff : resolveLink context file = '#' :: pageId (sibling path file) ↔
      dirAnchor (directory context.basePrefix) = dirAnchor (directory path) := by
    rw [hlink, hsibling, List.cons_inj_right, List.append_left_inj]
  refine ⟨hlink, hsibling, hiff, fun hback => hiff.mpr ?_⟩
  rw [directory_basePrefix h.isRooted_eq [] hback]

end Sibling

/-- A backslash in front of the last slash counts for the link too. -/
theorem resolveLink_sibling_spelled :
    let path := "./guide\\..//ref/intro.md".toList
    IsBookPath path ∧ IsSmallName "setup".toList ∧ '\\' ∉ lastPart path ∧
      sibling path "setup.md".toList = "ref/setup.md".toList ∧
      resolveLink ⟨some path, []⟩ "setup.md".toList = '#' :: pageId "ref/setup.md".toList := by
  intro path
  have hpath : IsBookPath path := ⟨by decide, by decide, by decide, by decide, by decide⟩
  have hstem : IsSmallName "setup".toList := by decide
  have hback : '\\' ∉ lastPart path := by decide
  have hsibling : sibling path "setup.md".toList = "ref/setup.md".toList := by
    decide +kernel
  have hlink := (resolveLink_sibling hpath hstem).2.2.2 hback
  exact ⟨hpath, hstem, hback, hsibling, hsibling ▸ hlink⟩

/-- Behind the last slash the page id enters a directory that the link does not. -/
theorem resolveLink_sibling_backslash :
    let path := "a\\b.md".toList
    IsBookPath path ∧ IsSmallName "x".toList ∧
      sibling path "x.md".toList = "a/x.md".toList ∧
      pageId "a/x.md".toList = "a-x".toList ∧
      resolveLink ⟨some path, []⟩ "x.md".toList = "#x".toList := by
  intro path
  exact ⟨⟨by decide, by decide, by decide, by decide, by decide⟩, by decide,
    by decide +kernel, by decide +kernel, by decide +kernel⟩

end Folio.Link
