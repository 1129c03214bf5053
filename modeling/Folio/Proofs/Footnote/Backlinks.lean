import Folio.Book.Page
import Folio.Proofs.Footnote.Item
import Folio.Proofs.Footnote.Linked
import Folio.Proofs.Footnote.Listing
import Mathlib.Data.List.Flatten
import Mathlib.Data.List.Pairwise

/-!
# Links back to references

Behind a listed footnote stands one link back for each reference to it that has been counted. A
reference is counted wherever it stands, but its superscript is only shown with the tokens around
it: in the text of the page or in a listed footnote. So a link back leads somewhere exactly if the
reference with its number does not stand in a definition that is dropped. On the print page links
back begin with the page id, while superscripts have the same ids as on a page of its own.
-/

namespace Folio.Footnote

open Folio.Text

section Targets

variable {pageId : String} {usage : Usage} {definition : Definition} {occurrence : Nat}

/-- The id that the link back to a reference points to. -/
def backlinkTarget (pageId name : String) (occurrence : Nat) : String :=
  anchorPrefix pageId ++ referenceId name occurrence

theorem content_backlink (pageId name : String) (occurrence : Nat) :
    ∃ rest, (backlink pageId name occurrence).content =
      " <a href=\"#" ++ backlinkTarget pageId name occurrence ++ "\">" ++ rest := by
  have hmark : "\">↩" = "\">" ++ "↩" := rfl
  refine ⟨"↩" ++ (if occurrence = 1 then "" else toString occurrence) ++ "</a>", ?_⟩
  rw [backlink, hmark, Token.html, backlinkTarget]
  simp only [String.append_assoc]

/-- A listed footnote holds one link back for each reference counted. -/
theorem backlink_mem_itemTokens (hpos : 1 ≤ occurrence) (hle : occurrence ≤ usage.count) :
    backlink pageId definition.name occurrence ∈ itemTokens pageId usage definition := by
  rw [itemTokens_eq]
  refine List.mem_cons_of_mem _ (List.mem_append_left _ (mem_appendInside.mpr (Or.inr ?_)))
  exact mem_backlinks.mpr ⟨occurrence, hpos, hle, rfl⟩

/-- The link back to a reference with a prefix points to a superscript only if the name there begins
in a certain way. -/
theorem backlinkTarget_eq_referenceId {name other : String} {number : Nat} (hid : pageId ≠ "") :
    backlinkTarget pageId name occurrence = referenceId other number ↔
      pageId ++ "-fr-" ++ name = "fr-" ++ other ∧ occurrence = number := by
  have htarget : (backlinkTarget pageId name occurrence).toList =
      (pageId ++ "-fr-" ++ name).toList ++ '-' :: Nat.toDigits 10 occurrence := by
    rw [backlinkTarget, anchorPrefix, if_neg hid, String.toList_append, toList_referenceId]
    simp
  have hother : (referenceId other number).toList =
      ("fr-" ++ other).toList ++ '-' :: Nat.toDigits 10 number := by
    rw [toList_referenceId, String.toList_append, List.append_assoc]
  rw [← String.toList_inj, htarget, hother, append_hyphen_toDigits_inj, String.toList_inj]

/-- The link back to a reference with a prefix does not point to the superscript of the
reference. -/
theorem backlinkTarget_ne_referenceId {name : String} (hid : pageId ≠ "") :
    backlinkTarget pageId name occurrence ≠ referenceId name occurrence := by
  intro heq
  have hnames := congrArg String.length ((backlinkTarget_eq_referenceId hid).mp heq).1
  simp only [String.length_append] at hnames
  have hlonger : "-fr-".length = 4 := rfl
  have hshorter : "fr-".length = 3 := rfl
  omega

end Targets

section Counted

variable {stream : List Token}

/-- A footnote is listed with the number of references to it. -/
theorem count_of_usage? {definition : Definition} {usage : Usage}
    (h : (Collector.collect {} stream).1.usage? definition = some usage) :
    usage.count = (referenceNames stream).count definition.name := by
  have hcount : occurrences (Collector.collect {} stream).1.usages definition.name =
      usage.count := by
    rw [Collector.usage?] at h
    rw [occurrences, h]
    rfl
  rw [← hcount, collect_linked]
  exact occurrences_linkAll stream definition.name

theorem exists_usage? {definition : Definition} (h : definition.name ∈ referenceNames stream) :
    ∃ usage, (Collector.collect {} stream).1.usage? definition = some usage := by
  obtain ⟨usage, husage, hname⟩ := List.mem_map.mp (mem_names_usages.mpr h)
  rw [← Option.isSome_iff_exists, Collector.usage?, List.find?_isSome]
  exact ⟨usage, husage, decide_eq_true hname⟩

end Counted

section Places

variable {stream : List Token}

theorem mem_places_iff {front : List Segment} {segment : Segment} :
    (front, segment) ∈ places stream ↔ ∃ back, (cut stream).segments = front ++ segment :: back :=
  mem_withEarlier_iff

/-- No id is given to two superscripts of a stream. -/
theorem nodup_streamIds (stream : List Token) :
    (partIds [] (cut stream).head ++ (places stream).flatMap (placeIds stream)).Nodup := by
  rw [← partIds_eq_places]
  exact nodup_partIds [] stream

/-- An id belongs to one place only. -/
theorem place_unique {place other : List Segment × Segment} (hplace : place ∈ places stream)
    (hother : other ∈ places stream) {id : String} (hid : id ∈ placeIds stream place)
    (hid' : id ∈ placeIds stream other) : place = other := by
  obtain ⟨-, hplaces, -⟩ := List.nodup_append'.mp (nodup_streamIds stream)
  obtain ⟨-, hdisjoint⟩ := List.nodup_flatMap.mp hplaces
  have hsymm : Std.Symm (Function.onFun List.Disjoint (placeIds stream)) :=
    ⟨fun _ _ h => List.disjoint_symm h⟩
  by_contra hne
  exact hdisjoint.forall hplace hother hne hid hid'

/-- No id in front of all markers belongs to a place. -/
theorem not_mem_placeIds {place : List Segment × Segment} (hplace : place ∈ places stream)
    {id : String} (hid : id ∈ partIds [] (cut stream).head) : id ∉ placeIds stream place := by
  intro hid'
  obtain ⟨-, -, hdisjoint⟩ := List.nodup_append'.mp (nodup_streamIds stream)
  exact hdisjoint hid (List.mem_flatMap.mpr ⟨place, hplace, hid'⟩)

theorem nodup_placeIds {place : List Segment × Segment} (hplace : place ∈ places stream) :
    (placeIds stream place).Nodup := by
  obtain ⟨-, hplaces, -⟩ := List.nodup_append'.mp (nodup_streamIds stream)
  exact (List.nodup_flatMap.mp hplaces).1 place hplace

end Places

section Shown

variable (stream : List Token)

/-- The body that a footnote has in a stream: that of the first definition of its name. -/
def sourceBody (name : String) : List Token :=
  (((cut stream).segments.filterMap Segment.definition?).find? (·.name = name)).elim [] (·.body)

/-- The ids of the superscripts in a listed footnote. -/
def itemIds (item : Usage × Definition) : List String :=
  (superscripts (sourceBody stream item.2.name) item.2.body).map superscriptId

/-- The ids of the superscripts that a page shows, in its text and behind it in the footnotes that
are listed. -/
def outputIds : List String :=
  (superscripts (cut stream).text (Collector.collect {} stream).2).map superscriptId ++
    (Collector.collect {} stream).1.listed.flatMap (itemIds stream)

/-- A place in a stream where a definition stands that is dropped: its name has been defined before,
nothing refers to its name, or no marker ends it. -/
structure IsDroppedAt (definition : Definition) (front : List Segment) (segment : Segment)
    (back : List Segment) : Prop where
  split : (cut stream).segments = front ++ segment :: back
  begun : segment.definition? = some definition
  reason : definition.name ∈ definedNames front ∨ definition.name ∉ referenceNames stream ∨
    back = []

/-- The reference with a given number among those to a name stands in a definition that is
dropped. -/
def IsDropped (name : String) (occurrence : Nat) : Prop :=
  ∃ definition front segment back, IsDroppedAt stream definition front segment back ∧
    Holds ((cut stream).inFront front) segment.body name occurrence

variable {stream} {definition : Definition} {front back : List Segment} {segment : Segment}

/-- The definition at a place where one is kept. -/
theorem IsKeptAt.definition_eq (h : IsKeptAt stream definition front segment back) :
    segment.definition? = some ⟨definition.name, segment.body⟩ ∧
      definition.body = (linkedAt stream (front, segment)).body := by
  have hlinked := h.linked
  rw [definition?_linkedAt, Option.map_eq_some_iff] at hlinked
  obtain ⟨inner, hinner, rfl⟩ := hlinked
  refine ⟨?_, rfl⟩
  rw [show segment.definition? = some inner from hinner]
  rw [Segment.definition?] at hinner
  split at hinner
  · obtain rfl := Option.some.inj hinner
    rfl
  · exact absurd hinner (Option.some_ne_none _).symm

theorem IsKeptAt.mem_places (h : IsKeptAt stream definition front segment back) :
    (front, segment) ∈ places stream :=
  mem_places_iff.mpr ⟨back, h.split⟩

theorem IsKeptAt.sourceBody_eq (h : IsKeptAt stream definition front segment back) :
    sourceBody stream definition.name = segment.body := by
  have hfront : (front.filterMap Segment.definition?).find? (·.name = definition.name) = none := by
    rw [List.find?_eq_none]
    intro earlier hearlier
    simp only [decide_eq_true_eq]
    exact fun hname => h.first (hname ▸ List.mem_map_of_mem hearlier)
  rw [sourceBody, h.split, List.filterMap_append, List.find?_append, hfront,
    List.filterMap_cons_some h.definition_eq.1]
  simp

/-- A kept definition holds the ids of its place. -/
theorem IsKeptAt.itemIds_eq (h : IsKeptAt stream definition front segment back) (usage : Usage) :
    itemIds stream (usage, definition) = placeIds stream (front, segment) := by
  rw [itemIds, h.sourceBody_eq, h.definition_eq.2]
  rfl

/-- A listed footnote has a place where it is kept. -/
theorem exists_isKeptAt {item : Usage × Definition}
    (h : item ∈ (Collector.collect {} stream).1.listed) :
    ∃ front segment back, IsKeptAt stream item.2 front segment back :=
  (mem_definitions_collect stream).mp (mem_listed_iff.mp h).1

/-- Distinct footnotes of the list hold distinct ids. -/
theorem item_unique {item other : Usage × Definition}
    (hitem : item ∈ (Collector.collect {} stream).1.listed)
    (hother : other ∈ (Collector.collect {} stream).1.listed) {id : String}
    (hid : id ∈ itemIds stream item) (hid' : id ∈ itemIds stream other) : item = other := by
  obtain ⟨front, segment, back, hkept⟩ := exists_isKeptAt hitem
  obtain ⟨front', segment', back', hkept'⟩ := exists_isKeptAt hother
  rw [hkept.itemIds_eq] at hid
  rw [hkept'.itemIds_eq] at hid'
  have hplace := place_unique hkept.mem_places hkept'.mem_places hid hid'
  have hdefinition : item.2 = other.2 := by
    have hlinked := hkept.linked
    rw [hplace, hkept'.linked] at hlinked
    exact (Option.some.inj hlinked).symm
  have husage := (mem_listed_iff.mp hitem).2
  rw [hdefinition, (mem_listed_iff.mp hother).2] at husage
  exact Prod.ext (Option.some.inj husage).symm hdefinition

/-- An id in the text of a page stands in front of all markers or at a place that is no
definition. -/
theorem mem_textIds_iff {id : String} :
    id ∈ (superscripts (cut stream).text (Collector.collect {} stream).2).map superscriptId ↔
      id ∈ partIds [] (cut stream).head ∨
        ∃ place ∈ places stream, place.2.definition? = none ∧ id ∈ placeIds stream place := by
  rw [textIds_eq, List.mem_append, List.mem_flatMap]
  refine or_congr_right (exists_congr fun place => and_congr_right fun _ => ?_)
  cases place.2.definition? <;> simp

/-- No id is shown twice. -/
theorem nodup_outputIds (stream : List Token) : (outputIds stream).Nodup := by
  rw [outputIds, List.nodup_append']
  refine ⟨?_, ?_, ?_⟩
  · rw [textIds_eq]
    refine (nodup_streamIds stream).sublist (List.Sublist.append_left ?_ _)
    refine List.Sublist.flatMap_right _ fun place _ => ?_
    split
    · exact List.nil_sublist _
    · exact List.Sublist.refl _
  · refine List.nodup_flatMap.mpr ⟨fun item hitem => ?_, ?_⟩
    · obtain ⟨front, segment, back, hkept⟩ := exists_isKeptAt hitem
      rw [hkept.itemIds_eq]
      exact nodup_placeIds hkept.mem_places
    · apply (isRegular_collect stream).nodup_listed.pairwise_of_forall_ne
      intro item hitem other hother hne id hid hid'
      exact hne (item_unique hitem hother hid hid')
  · intro id htext hlisted
    obtain ⟨item, hitem, hid⟩ := List.mem_flatMap.mp hlisted
    obtain ⟨front, segment, back, hkept⟩ := exists_isKeptAt hitem
    rw [hkept.itemIds_eq] at hid
    rcases mem_textIds_iff.mp htext with hhead | ⟨place, hplace, hnone, hid'⟩
    · exact not_mem_placeIds hkept.mem_places hhead hid
    · obtain rfl := place_unique hplace hkept.mem_places hid' hid
      rw [hkept.definition_eq.1] at hnone
      exact absurd hnone (Option.some_ne_none _)

/-- A definition of the stream is kept with its references replaced. -/
theorem isKeptAt_of_definition? (hsplit : (cut stream).segments = front ++ segment :: back)
    (hback : back ≠ []) (hfirst : definition.name ∉ definedNames front)
    (hdefinition : segment.definition? = some definition) :
    IsKeptAt stream ⟨definition.name, (linkedAt stream (front, segment)).body⟩ front segment
      back := by
  refine ⟨hsplit, hback, hfirst, ?_⟩
  rw [definition?_linkedAt, hdefinition]
  rfl

/-- A definition that is kept is listed if something refers to it. -/
theorem IsKeptAt.exists_listed (h : IsKeptAt stream definition front segment back)
    (hreferred : definition.name ∈ referenceNames stream) :
    ∃ item ∈ (Collector.collect {} stream).1.listed,
      itemIds stream item = placeIds stream (front, segment) := by
  obtain ⟨usage, husage⟩ := exists_usage? hreferred
  have hkept : definition ∈ (Collector.collect {} stream).1.definitions :=
    (mem_definitions_collect stream).mpr ⟨front, segment, back, h⟩
  exact ⟨(usage, definition), mem_listed_iff.mpr ⟨hkept, husage⟩, h.itemIds_eq usage⟩

/-- What is kept at the place of a definition that is dropped is not referred to. -/
theorem IsKeptAt.not_mem_referenceNames (h : IsKeptAt stream definition front segment back)
    {inner : Definition} {later : List Segment}
    (hdropped : IsDroppedAt stream inner front segment later) :
    definition.name ∉ referenceNames stream := by
  have hlater : later = back := by
    have hsame := hdropped.split.symm.trans h.split
    rw [List.append_cancel_left_eq, List.cons.injEq] at hsame
    exact hsame.2
  have hname : inner.name = definition.name := by
    rw [Option.some.inj (hdropped.begun.symm.trans h.definition_eq.1)]
  have hreason := hdropped.reason
  rw [hname, hlater] at hreason
  rcases hreason with hearlier | hunreferred | hopen
  · exact absurd hearlier h.first
  · exact hunreferred
  · exact absurd hopen h.ended

/-- The superscript of a reference is shown exactly if the reference is not dropped. -/
theorem mem_outputIds_iff (stream : List Token) {name : String} {occurrence : Nat}
    (hpos : 1 ≤ occurrence) (hle : occurrence ≤ (referenceNames stream).count name) :
    referenceId name occurrence ∈ outputIds stream ↔ ¬ IsDropped stream name occurrence := by
  rw [outputIds, List.mem_append, List.mem_flatMap, mem_textIds_iff]
  constructor
  · rintro hshown ⟨definition, front, segment, back, hdropped, hholds⟩
    have hplace : (front, segment) ∈ places stream := mem_places_iff.mpr ⟨back, hdropped.split⟩
    have hid : referenceId name occurrence ∈ placeIds stream (front, segment) :=
      mem_partIds.mpr hholds
    rcases hshown with (hhead | ⟨other, hother, hnone, hid'⟩) | ⟨item, hitem, hid'⟩
    · exact not_mem_placeIds hplace hhead hid
    · obtain rfl := place_unique hplace hother hid hid'
      rw [hdropped.begun] at hnone
      exact absurd hnone (Option.some_ne_none _)
    · obtain ⟨front', segment', back', hkept⟩ := exists_isKeptAt hitem
      rw [hkept.itemIds_eq] at hid'
      obtain ⟨rfl, rfl⟩ := Prod.mk.inj (place_unique hplace hkept.mem_places hid hid')
      exact hkept.not_mem_referenceNames hdropped
        (mem_names_usages.mp (Collector.name_mem_of_mem_listed hitem).2)
  · intro hkept
    have hid : referenceId name occurrence ∈ partIds [] stream := mem_partIds.mpr ⟨hpos, hle⟩
    rw [partIds_eq_places, List.mem_append] at hid
    rcases hid with hhead | hplaces
    · exact Or.inl (Or.inl hhead)
    · obtain ⟨⟨front, segment⟩, hplace, hid⟩ := List.mem_flatMap.mp hplaces
      obtain ⟨back, hsplit⟩ := mem_places_iff.mp hplace
      cases hdefinition : segment.definition? with
      | none => exact Or.inl (Or.inr ⟨_, hplace, hdefinition, hid⟩)
      | some definition =>
        have hno : ¬ (definition.name ∈ definedNames front ∨
            definition.name ∉ referenceNames stream ∨ back = []) := fun hreason =>
          hkept ⟨definition, front, segment, back, ⟨hsplit, hdefinition, hreason⟩,
            mem_partIds.mp hid⟩
        rw [not_or, not_or, not_not] at hno
        obtain ⟨hfirst, hreferred, hback⟩ := hno
        obtain ⟨item, hitem, hids⟩ :=
          (isKeptAt_of_definition? hsplit hback hfirst hdefinition).exists_listed hreferred
        exact Or.inr ⟨item, hitem, hids ▸ hid⟩

end Shown

section Standalone

/-- On a page of its own a link back leads to exactly one superscript that is shown, unless the
reference stands in a definition that is dropped: then it leads nowhere. -/
theorem backlinks_standalone (redirects : List Page.Redirect) (stream : List Token) :
    let context : Page.Context := ⟨none, redirects⟩
    let pageId := String.ofList context.pageId
    let collected := Collector.collect {} stream
    ∀ item ∈ collected.1.listed, ∀ occurrence, 1 ≤ occurrence → occurrence ≤ item.1.count →
      let link := backlink pageId item.2.name occurrence
      let target := backlinkTarget pageId item.2.name occurrence
      link ∈ itemTokens pageId item.1 item.2 ∧
      (∃ rest, link.content = " <a href=\"#" ++ target ++ "\">" ++ rest) ∧
      target = referenceId item.2.name occurrence ∧
      (¬ IsDropped stream item.2.name occurrence → (outputIds stream).count target = 1) ∧
      (IsDropped stream item.2.name occurrence → (outputIds stream).count target = 0) := by
  intro context pageId collected item hitem occurrence hpos hle link target
  have htarget : target = referenceId item.2.name occurrence := String.empty_append
  have hcount := count_of_usage? (mem_listed_iff.mp hitem).2
  have hshown := mem_outputIds_iff stream hpos (hcount ▸ hle)
  rw [← htarget] at hshown
  refine ⟨backlink_mem_itemTokens hpos hle, content_backlink .., htarget, fun hkept => ?_,
    fun hdropped => ?_⟩
  · exact List.count_eq_one_of_mem (nodup_outputIds stream) (hshown.mpr hkept)
  · exact List.count_eq_zero.mpr fun hmem => hshown.mp hmem hdropped

/-- A footnote with one reference in the text and one in a definition that nothing refers to. -/
theorem backlinks_standalone_mixed :
    let mark (name : String) : Token := { kind := .footnoteOpen, label := some name }
    let close : Token := { kind := .footnoteClose }
    let refer (name : String) : Token :=
      { kind := .inline, children := some [{ kind := .footnoteReference, label := some name }] }
    let stream := [refer "b", mark "u", refer "b", close, mark "b", close]
    let collected := Collector.collect {} stream
    collected.1.listed.map (fun item => (item.2.name, item.1.count)) = [("b", 2)] ∧
      outputIds stream = ["fr-b-1"] ∧
      ¬ IsDropped stream "b" 1 ∧ IsDropped stream "b" 2 := by
  intro mark close refer stream collected
  have hlisted : collected.1.listed.map (fun item => (item.2.name, item.1.count)) =
      [("b", 2)] := by decide +kernel
  have hids : outputIds stream = ["fr-b-1"] := by decide +kernel
  obtain ⟨item, hitem, hpair⟩ := List.mem_map.mp
    (hlisted ▸ List.mem_singleton_self ("b", 2) :
      ("b", 2) ∈ collected.1.listed.map fun item => (item.2.name, item.1.count))
  obtain ⟨hname, hcount⟩ := Prod.mk.inj hpair
  obtain ⟨-, -, hfirst, -, hnone⟩ := backlinks_standalone [] stream item hitem 1 (by decide)
    (by rw [hcount]; decide)
  obtain ⟨-, -, hsecond, hone, -⟩ := backlinks_standalone [] stream item hitem 2 (by decide)
    (by rw [hcount])
  rw [hfirst, hname, hids] at hnone
  rw [hsecond, hname, hids] at hone
  exact ⟨hlisted, hids, fun hdropped => absurd (hnone hdropped) (by decide),
    by_contra fun hkept => absurd (hone hkept) (by decide)⟩

/-- A page with a footnote whose only reference stands in a definition that nothing refers to: the
footnote is listed, and its link back leads nowhere. -/
theorem backlink_dangling :
    let text := "Body.\n\n[^u]: Unused[^b].\n\n[^b]: Deep.\n"
    let stream := (Book.prepare ⟨none, []⟩ none (Markdown.parse {} text)).1
    let collected := Collector.collect {} stream
    collected.1.listed.map (fun item => (item.2.name, item.1.count)) = [("b", 1)] ∧
      backlinkTarget "" "b" 1 = "fr-b-1" ∧ outputIds stream = [] := by
  decide +kernel

end Standalone

section Print

variable {stream : List Token}

/-- If no definition holds references, all superscripts stand in the text. -/
theorem textIds_of_outside
    (houtside : ∀ segment ∈ (cut stream).segments, segment.definition?.isSome →
      referenceNames segment.body = []) :
    (superscripts (cut stream).text (Collector.collect {} stream).2).map superscriptId =
      partIds [] stream := by
  rw [textIds_eq, partIds_eq_places stream]
  congr 1
  refine List.flatMap_congr ?_
  rintro ⟨front, segment⟩ hplace
  obtain ⟨back, hsplit⟩ := mem_places_iff.mp hplace
  split
  · rename_i hdefinition
    have hsegment : segment ∈ (cut stream).segments := by
      rw [hsplit]
      exact List.mem_append_right _ List.mem_cons_self
    rw [placeIds, partIds, map_superscriptId, houtside segment hsegment hdefinition]
    rfl
  · rfl

/-- On the print page links back begin with the page id and superscripts do not. Where all
references stand in the text and refer to definitions that end, each reference has a superscript
and a link back of its footnote, but the link does not point to it; it points to a superscript at
all only if the page id and the name happen to be spelled like the id of another one. -/
theorem backlinks_print (stream : List Token) (path : List Char) (redirects : List Page.Redirect)
    (hid : (⟨some path, redirects⟩ : Page.Context).pageId ≠ [])
    (houtside : ∀ segment ∈ (cut stream).segments, segment.definition?.isSome →
      referenceNames segment.body = [])
    (hdefined : ∀ name ∈ referenceNames stream, name ∈ names (ended (cut stream).segments)) :
    let context : Page.Context := ⟨some path, redirects⟩
    let pageId := String.ofList context.pageId
    let collected := Collector.collect {} stream
    let ids := (superscripts (cut stream).text collected.2).map superscriptId
    (∀ name ∈ referenceNames stream, ∃ item ∈ collected.1.listed, item.2.name = name) ∧
      ∀ item ∈ collected.1.listed, ∀ occurrence, 1 ≤ occurrence → occurrence ≤ item.1.count →
        let link := backlink pageId item.2.name occurrence
        let target := backlinkTarget pageId item.2.name occurrence
        link ∈ itemTokens pageId item.1 item.2 ∧
        (∃ rest, link.content = " <a href=\"#" ++ target ++ "\">" ++ rest) ∧
        ids.count (referenceId item.2.name occurrence) = 1 ∧
        target = pageId ++ "-" ++ referenceId item.2.name occurrence ∧
        target ≠ referenceId item.2.name occurrence ∧
        (target ∈ ids ↔ ∃ other, pageId ++ "-fr-" ++ item.2.name = "fr-" ++ other ∧
          occurrence ≤ (referenceNames stream).count other) := by
  intro context pageId collected ids
  have hne : pageId ≠ "" := fun hempty => hid (String.ofList_eq_empty_iff.mp hempty)
  have hids : ids = partIds [] stream := textIds_of_outside houtside
  have hnodup : ids.Nodup := by
    rw [hids]
    exact nodup_partIds [] stream
  have hmem : ∀ name occurrence, referenceId name occurrence ∈ ids ↔
      1 ≤ occurrence ∧ occurrence ≤ (referenceNames stream).count name := by
    intro name occurrence
    rw [hids, mem_partIds]
    exact ⟨fun h => ⟨h.behind, h.within⟩, fun h => ⟨h.1, h.2⟩⟩
  refine ⟨fun name hname => ?_, fun item hitem occurrence hpos hle => ?_⟩
  · obtain ⟨definition, hdefinition, rfl⟩ := List.mem_map.mp
      ((mem_names_definitions stream).mpr (hdefined name hname))
    obtain ⟨usage, husage⟩ := exists_usage? hname
    exact ⟨(usage, definition), mem_listed_iff.mpr ⟨hdefinition, husage⟩, rfl⟩
  · have hcount := count_of_usage? (mem_listed_iff.mp hitem).2
    intro link target
    refine ⟨backlink_mem_itemTokens hpos hle, content_backlink .., ?_, ?_,
      backlinkTarget_ne_referenceId hne, ?_⟩
    · exact List.count_eq_one_of_mem hnodup ((hmem _ _).mpr ⟨hpos, hcount ▸ hle⟩)
    · simp only [target, backlinkTarget, anchorPrefix, if_neg hne]
    · constructor
      · intro htarget
        obtain ⟨other, number, hspelled⟩ := exists_of_mem_partIds (hids ▸ htarget)
        obtain ⟨hname, rfl⟩ := (backlinkTarget_eq_referenceId hne).mp hspelled
        rw [hspelled] at htarget
        exact ⟨other, hname, ((hmem _ _).mp htarget).2⟩
      · rintro ⟨other, hname, hother⟩
        have hspelled : target = referenceId other occurrence :=
          (backlinkTarget_eq_referenceId hne).mpr ⟨hname, rfl⟩
        rw [hspelled]
        exact (hmem _ _).mpr ⟨hpos, hother⟩

/-- A chapter whose only footnote is defined behind the text that refers to it: the link back points
to no superscript. -/
theorem backlinks_print_note :
    let stream : List Token :=
      [{ kind := .inline, children := some [{ kind := .footnoteReference, label := some "1" }] },
        { kind := .footnoteOpen, label := some "1" }, { kind := .footnoteClose }]
    let collected := Collector.collect {} stream
    let ids := (superscripts (cut stream).text collected.2).map superscriptId
    (∃ item ∈ collected.1.listed, item.2.name = "1" ∧ item.1.count = 1) ∧
      ids.count (referenceId "1" 1) = 1 ∧ backlinkTarget "ch" "1" 1 ∉ ids := by
  intro stream collected ids
  have hlisted : collected.1.listed.map (fun item => (item.2.name, item.1.count)) =
      [("1", 1)] := by decide +kernel
  have hitems : ("1", 1) ∈ collected.1.listed.map fun item => (item.2.name, item.1.count) := by
    rw [hlisted]
    exact List.mem_singleton_self _
  obtain ⟨item, hitem, hpair⟩ := List.mem_map.mp hitems
  obtain ⟨hname, hcount⟩ := Prod.mk.inj hpair
  have hpage : String.ofList (⟨some "ch.md".toList, []⟩ : Page.Context).pageId = "ch" := by
    decide +kernel
  have hlinks := (backlinks_print stream "ch.md".toList [] (by decide +kernel)
    (by decide) (by decide)).2 item hitem 1 (by decide) (by rw [hcount])
  rw [hname, hpage] at hlinks
  obtain ⟨-, -, hone, -, -, htarget⟩ := hlinks
  refine ⟨⟨item, hitem, hname, hcount⟩, hone, fun hmem => ?_⟩
  obtain ⟨other, hspelled, -⟩ := htarget.mp hmem
  have hfirst := congrArg (fun name : String => name.toList.head?) hspelled
  simp at hfirst

/-- A chapter with one footnote: the link back points to `ch-fr-1-1`, and the only superscript has
the id `fr-1-1`. -/
theorem backlink_prefixed :
    let context : Page.Context := ⟨some "ch.md".toList, []⟩
    let text := "Text[^1].\n\n[^1]: The note.\n"
    let stream := (Book.prepare context none (Markdown.parse {} text)).1
    let collected := Collector.collect {} stream
    referenceNames (cut stream).text = referenceNames stream ∧
      names (ended (cut stream).segments) = ["1"] ∧
      collected.1.listed.map (fun item => (item.2.name, item.1.count)) = [("1", 1)] ∧
      (superscripts (cut stream).text collected.2).map superscriptId = ["fr-1-1"] ∧
      backlinkTarget (.ofList context.pageId) "1" 1 = "ch-fr-1-1" := by
  decide +kernel

end Print

end Folio.Footnote
