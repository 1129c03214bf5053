import Folio.Proofs.Link.CrossChapter
import Folio.Proofs.Link.Moved

/-!
# Links within a chapter

On the print page a fragment of the own chapter may be written alone or behind the file of the
chapter. Alone it is put behind the page id as it is written; behind the file it is lower-cased with
the path and may lose an extension. Both give one text only if this changes nothing.
-/

namespace Folio.Link

open Folio.Page Folio.Path Folio.Text

variable {place : Place} {fragment : List Char}

/-- A chapter is reached from itself by its file name. -/
theorem beside_dirPath {ext : List Char} :
    beside place.dirPath (place.stem ++ ext) = place.base ++ ext := by
  rw [beside, Place.base_append]
  by_cases hdir : place.dir = []
  · rw [if_pos (by rw [Place.dirPath, hdir]; rfl), hdir]
    rfl
  · have hne : place.dirPath ≠ [] := joinWith_ne_nil hdir fun _ => Place.settled_dir.ne_nil
    rw [if_neg hne, joinWith_concat hdir, List.append_assoc]
    rfl

/-- A fragment behind the file is lower-cased, and what looks like a page in it loses the
extension. -/
theorem resolveLink_ownFile (hscheme : hasScheme place.stem = false) (hmark : '#' ∉ fragment)
    (hwithin : WithinSegment fragment) :
    resolveLink ⟨some place.source, []⟩ (place.stem ++ sourceExtension ++ '#' :: fragment) =
      '#' :: (lower (hyphened place.base) ++
        '-' :: dropSuffix htmlExtension (lower fragment)) := by
  have hfile : '#' ∉ place.stem ++ sourceExtension := by
    rw [List.mem_append, not_or]
    exact ⟨place.stem_no_mark, by decide⟩
  have hslash : (place.stem.head? == some '/') = false :=
    beq_eq_false_iff_ne.mpr fun hh => place.stem_within.1 (List.mem_of_head? hh)
  have hrelative : isAbsolute (place.stem ++ sourceExtension) = false := by
    rw [isAbsolute_append (by decide) (by decide), isAbsolute, hscheme, hslash]
    rfl
  have hpath : normalize (Context.basePrefix ⟨some place.source, []⟩ ++
      (place.stem ++ sourceExtension)) = place.source := by
    rw [basePrefix_append, Place.source, Place.parent_append isExtension_source, beside_dirPath,
      Place.normalize_append isExtension_source]
  have hlink := resolveLink_of_source (some fragment) rfl hfile hrelative (List.suffix_append _ _)
    hpath (fun _ he => Option.some.inj he ▸ hwithin) (fun _ he => absurd he List.not_mem_nil)
  exact hlink.trans (congrArg _ (anchor_fragment_eq Place.mark_not_mem_base hmark hwithin.1))

/-- A file name that looks like a scheme is left alone. -/
theorem resolveLink_of_scheme {context : Context} {stem : List Char} (h : hasScheme stem = true) :
    resolveLink context (stem ++ sourceExtension ++ '#' :: fragment) =
      stem ++ sourceExtension ++ '#' :: fragment := by
  apply resolveLink_of_absolute
  rw [isAbsolute_append_mark, isAbsolute_append (by decide) (by decide), isAbsolute, h,
    Bool.true_or]

/-- A text keeps its lower-case form without an extension exactly if it is in lower case and has no
extension. -/
theorem eq_dropSuffix_lower_iff {cs : List Char} :
    cs = dropSuffix htmlExtension (lower cs) ↔ lower cs = cs ∧ ¬ htmlExtension <:+ cs := by
  constructor
  · intro h
    have hfront : cs <+: lower cs := by
      conv_lhs => rw [h]
      exact dropSuffix_isPrefix _ _
    have hlower : lower cs = cs := lower_eq_self_of_isPrefix hfront
    refine ⟨hlower, fun hext => ?_⟩
    obtain ⟨stem, hstem⟩ := hext
    rw [hlower, ← hstem, dropSuffix_append] at h
    exact absurd (List.append_right_eq_self.mp h) (List.cons_ne_nil _ _)
  · rintro ⟨hlower, hext⟩
    rw [hlower, dropSuffix_eq_self hext]

/-- Where the stem of a chapter is resolved away, its page id has fewer hyphens than its file. -/
theorem ownFragment_ne_ownFile (h : ¬ place.IsBase) :
    pageId place.source ++ '-' :: fragment ≠
      lower (hyphened place.base) ++ '-' :: dropSuffix htmlExtension (lower fragment) := by
  have hfront := Place.normalize_base_isPrefix h
  intro heq
  by_cases hdir : place.dir = []
  · -- At the top of the book only a single dot is resolved away.
    have hdot : place.stem = ['.'] := by
      by_contra hne
      exact h ⟨hne, fun _ => hdir⟩
    rw [Place.dirPath, hdir] at hfront
    rw [Place.pageId_source_eq, List.prefix_nil.mp hfront, Place.base, hdir, hdot] at heq
    have hid : dropSuffix htmlExtension (lower (hyphened [])) = [] := by decide
    have hfile : lower (hyphened (joinWith ['/'] ([] ++ [['.']]))) = ['.'] := by decide
    rw [hid, hfile] at heq
    exact absurd (List.cons.inj heq).1 (by decide)
  · have hid : (pageId place.source).count '-' ≤ (hyphened place.dirPath).count '-' := by
      rw [Place.pageId_source_eq, count_dropSuffix (by decide), count_lower (by decide)]
      exact (hfront.map _).sublist.count_le '-'
    have hfile : (lower (hyphened place.base)).count '-' =
        (hyphened place.dirPath).count '-' + (place.stem.count '-' + 1) := by
      rw [count_lower (by decide), Place.base, hyphened_joinWith_concat hdir place.stem_within.1,
        List.count_append, List.count_cons_self]
      rfl
    have hcount := congrArg (List.count '-') heq
    rw [List.count_append, List.count_append, List.count_cons_self, List.count_cons_self, hfile,
      count_dropSuffix (by decide), count_lower (by decide)] at hcount
    omega

/-- Otherwise both begin with the path of the chapter, and the fragment decides. -/
theorem ownFragment_eq_ownFile_iff (h : place.IsBase) :
    pageId place.source ++ '-' :: fragment =
        lower (hyphened place.base) ++ '-' :: dropSuffix htmlExtension (lower fragment) ↔
      ¬ htmlExtension <:+ lower place.stem ∧
        lower fragment = fragment ∧ ¬ htmlExtension <:+ fragment := by
  have hpage : htmlExtension <:+ lower place.stem ↔
      htmlExtension <:+ lower (hyphened place.base) :=
    (suffix_lower_hyphened_iff place.stem_within.1).symm
  rw [hpage, Place.pageId_source_eq, Place.normalize_base h, ← eq_dropSuffix_lower_iff]
  by_cases hext : htmlExtension <:+ lower (hyphened place.base)
  · obtain ⟨stem, hstem⟩ := hext
    refine iff_of_false (fun heq => ?_) fun hnot => hnot.1 ⟨stem, hstem⟩
    rw [← hstem, dropSuffix_append, List.append_assoc, List.append_cancel_left_eq] at heq
    exact absurd (List.cons.inj heq).1 (by decide)
  · rw [dropSuffix_eq_self hext, List.append_cancel_left_eq, List.cons_inj_right,
      and_iff_right hext]

/-- The two spellings of a fragment of the own chapter lead to one place exactly if the file name
does not look like a scheme, its stem is neither resolved away nor looks like a page, and the
fragment is in lower case and does not look like a page either. -/
theorem resolveLink_samePage (hmark : '#' ∉ fragment) (hwithin : WithinSegment fragment) :
    resolveLink ⟨some place.source, []⟩ ('#' :: fragment) =
        resolveLink ⟨some place.source, []⟩ (place.stem ++ sourceExtension ++ '#' :: fragment) ↔
      hasScheme place.stem = false ∧ place.IsBase ∧ ¬ htmlExtension <:+ lower place.stem ∧
        lower fragment = fragment ∧ ¬ htmlExtension <:+ fragment := by
  rw [resolveLink_ownFragment rfl hmark]
  change '#' :: (pageId place.source ++ '-' :: fragment) = _ ↔ _
  by_cases hscheme : hasScheme place.stem = false
  · rw [resolveLink_ownFile hscheme hmark hwithin, List.cons_inj_right, and_iff_right hscheme]
    by_cases hbase : place.IsBase
    · rw [and_iff_right hbase]
      exact ownFragment_eq_ownFile_iff hbase
    · exact iff_of_false (ownFragment_ne_ownFile hbase) fun hboth => hbase hboth.1
  · refine iff_of_false (fun heq => ?_) fun hboth => hscheme hboth.1
    rw [resolveLink_of_scheme (eq_true_of_ne_false hscheme), List.append_assoc] at heq
    cases hstem : place.stem with
    | nil => exact hscheme (hstem ▸ rfl)
    | cons c rest =>
      rw [hstem, List.cons_append] at heq
      exact place.stem_no_mark (hstem ▸ (List.cons.inj heq).1 ▸ List.mem_cons_self)

/-- A section of the own chapter, its fragment in lower case. -/
theorem resolveLink_samePage_section :
    resolveLink ⟨some "guide/Start.md".toList, []⟩ "#install".toList =
        "#guide-start-install".toList ∧
      resolveLink ⟨some "guide/Start.md".toList, []⟩ "#install".toList =
        resolveLink ⟨some "guide/Start.md".toList, []⟩ "Start.md#install".toList := by
  have hsame := @resolveLink_samePage ⟨["guide".toList], "Start".toList, by decide, by decide,
    by decide⟩ "install".toList (by decide) (by decide)
  exact ⟨by decide, hsame.mpr (by decide)⟩

/-- Capitals and page extensions in a fragment are changed behind the file only, and the stem is
read in two ways where it looks like a page, a path or a scheme. -/
theorem resolveLink_samePage_spelled :
    let links (path alone behind : String) :=
      (String.ofList (resolveLink ⟨some path.toList, []⟩ alone.toList),
        String.ofList (resolveLink ⟨some path.toList, []⟩ behind.toList))
    links "guide/start.md" "#Part" "start.md#Part" = ("#guide-start-Part", "#guide-start-part") ∧
      links "guide/start.md" "#x.html" "start.md#x.html" =
        ("#guide-start-x.html", "#guide-start-x") ∧
      links "a.HTML.md" "#x" "a.HTML.md#x" = ("#a-x", "#a.html-x") ∧
      links "..md" "#x" "..md#x" = ("#-x", "#.-x") ∧
      links "d/...md" "#x" "...md#x" = ("#-x", "#d-..-x") ∧
      links "d/a:b.md" "#x" "a:b.md#x" = ("#d-a:b-x", "a:b.md#x") := by
  decide +kernel

end Folio.Link
