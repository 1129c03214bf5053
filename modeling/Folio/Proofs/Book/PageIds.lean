import Folio.Proofs.Book.FootnoteIds
import Folio.Proofs.Footnote.Backlinks
import Folio.Proofs.Path.Anchor
import Folio.Proofs.Text.AttributeValue

/-!
# Page ids in attribute values

A page id holds what the path of its chapter holds, quotes and ampersands too, and is put into
attribute values as it is: into the marker in front of the chapter, and into the links back of its
footnotes. It is read there as it is only if it is verbatim.
-/

namespace Folio.Book

open Folio.Footnote Folio.Page Folio.Text

/-- Whether the marker of a chapter is read as one empty element with the page id. -/
def MarkerReads (pageId : List Char) : Prop :=
  ∃ behind, (pageMarker pageId).toList = "<div id=\"".toList ++ behind ∧
    readValue behind = some (pageId, "></div>".toList)

/-- Whether the target of a link back is read as a fragment that begins with the page id. -/
def BacklinkReads (pageId : List Char) (link : Token) : Prop :=
  ∃ behind value rest, link.content.toList = " <a href=\"".toList ++ behind ∧
    readValue behind = some (value, rest) ∧ '#' :: (pageId ++ ['-']) <+: value

variable {pageId : List Char}

theorem toList_pageMarker (pageId : List Char) :
    (pageMarker pageId).toList =
      "<div id=\"".toList ++ (pageId ++ '\x22' :: "></div>".toList) := by
  have hid : (String.ofList pageId).toList = pageId := String.toList_ofList
  rw [pageMarker, String.toList_append, String.toList_append, hid, List.append_assoc]
  rfl

/-- The marker is read right exactly if the page id is verbatim. -/
theorem markerReads_iff : MarkerReads pageId ↔ IsVerbatim pageId := by
  rw [MarkerReads, toList_pageMarker]
  constructor
  · rintro ⟨behind, hmarker, hvalue⟩
    rw [← List.append_cancel_left hmarker] at hvalue
    exact readValue_eq_iff.mp hvalue
  · intro h
    exact ⟨_, rfl, readValue_eq_iff.mpr h⟩

/-- The target of a link back stands between quotes, the page id in front. -/
theorem toList_content_backlink (hid : pageId ≠ []) (name : String) (occurrence : Nat) :
    ∃ rest, (backlink (.ofList pageId) name occurrence).content.toList =
      " <a href=\"".toList ++ '#' :: (pageId ++
        '-' :: ((referenceId name occurrence).toList ++ '\x22' :: rest)) := by
  have hne : String.ofList pageId ≠ "" := fun h => hid (String.ofList_eq_empty_iff.mp h)
  obtain ⟨rest, hcontent⟩ := content_backlink (.ofList pageId) name occurrence
  refine ⟨'>' :: rest.toList, ?_⟩
  rw [hcontent, backlinkTarget, anchorPrefix, if_neg hne]
  simp only [String.toList_append, String.toList_ofList, List.append_assoc]
  rfl

/-- With a verbatim page id, links back are read right, whatever the name of the footnote is. -/
theorem backlinkReads (h : IsVerbatim pageId) (hid : pageId ≠ []) (name : String)
    (occurrence : Nat) : BacklinkReads pageId (backlink (.ofList pageId) name occurrence) := by
  obtain ⟨rest, hcontent⟩ := toList_content_backlink hid name occurrence
  obtain ⟨front, behind, hfirst, hfront⟩ := List.eq_append_cons_of_mem
    (List.mem_append_right (referenceId name occurrence).toList
      (List.mem_cons_self (a := '\x22') (l := rest)))
  have hquote : '\x22' ∉ '#' :: (pageId ++ '-' :: front) := by
    simp only [List.mem_cons, List.mem_append, not_or]
    exact ⟨by decide, h.no_quote, by decide, hfront⟩
  have hvalue := readValue_append hquote behind
  rw [decodeValue_cons (by decide), decodeValue_append_hyphen, h.decode_eq] at hvalue
  have hlink : (backlink (.ofList pageId) name occurrence).content.toList =
      " <a href=\"".toList ++ ('#' :: (pageId ++ '-' :: front) ++ '\x22' :: behind) := by
    rw [hcontent, hfirst]
    simp only [List.cons_append, List.append_assoc]
  have hbegins : '#' :: (pageId ++ ['-']) <+: '#' :: (pageId ++ '-' :: decodeValue front) :=
    ⟨decodeValue front, by simp only [List.cons_append, List.append_assoc, List.nil_append]⟩
  exact ⟨_, _, behind, hlink, hvalue, hbegins⟩

/-- Without quotes and ampersands in its path a chapter has a verbatim page id. -/
theorem isVerbatim_pageId {context : Context} {path : List Char} (hpath : context.path = some path)
    (hquote : '\x22' ∉ path) (hmark : '&' ∉ path) : IsVerbatim context.pageId := by
  have hid : context.pageId = Path.pageId path := by rw [Context.pageId, hpath]
  rw [hid]
  exact isVerbatim_of_not_mem
    (fun h => hquote (Path.mem_of_mem_pageId h (by decide) (by decide)))
    (fun h => hmark (Path.mem_of_mem_pageId h (by decide) (by decide)))

variable (renderer : Renderer)

/-- On the print page the marker in front of a chapter is read as one element with the page id
exactly if the page id is verbatim, and then the links back of its footnotes are read right too.
Page ids are verbatim where paths hold neither quotes nor ampersands. -/
theorem pageIds_readBack {counter : Anchor.Counter} {chapters : List Chapter}
    {pages : List Rendering} (hpages : renderer.renderings counter chapters = .ok pages) :
    (renderer.renderPrintPage counter chapters).html =
      .ok (pageBreak.intercalate (pages.map (·.html renderer))) ∧
    ∀ page ∈ pages,
      let pageId := page.context.pageId
      (∃ rest, page.html renderer = pageMarker pageId ++ rest) ∧
      (MarkerReads pageId ↔ IsVerbatim pageId) ∧
      (IsVerbatim pageId → pageId ≠ [] →
        ∀ item ∈ (page.collector renderer).listed,
          ∀ link ∈ backlinks (.ofList pageId) item.2.name item.1.count,
            link ∈ itemTokens (.ofList pageId) item.1 item.2 ∧ BacklinkReads pageId link) ∧
      ∀ path, page.context.path = some path → '\x22' ∉ path → '&' ∉ path →
        IsVerbatim pageId := by
  refine ⟨?_, fun page _ => ⟨⟨_, rfl⟩, markerReads_iff, ?_, fun path hpath hquote hmark =>
    isVerbatim_pageId hpath hquote hmark⟩⟩
  · rw [Renderer.html_renderPrintPage, hpages]
    rfl
  · intro hverbatim hid item _ link hlink
    obtain ⟨occurrence, hpos, hle, rfl⟩ := mem_backlinks.mp hlink
    exact ⟨backlink_mem_itemTokens hpos hle, backlinkReads hverbatim hid item.2.name occurrence⟩

/-- A chapter in a directory, with a footnote. -/
theorem pageIds_readBack_note :
    let book := Renderer.markdown {} []
    let page : Rendering := ⟨⟨some "a/b.md".toList, []⟩, {}, "Text[^1].\n\n[^1]: Note.\n"⟩
    book.renderings {} [.ofText "a/b.md" page.text] = .ok [page] ∧
      MarkerReads "a-b".toList ∧
      ∃ item ∈ (page.collector book).listed, item.2.name = "1" ∧
        BacklinkReads "a-b".toList (backlink "a-b" "1" 1) := by
  intro book page
  have hpages : book.renderings {} [.ofText "a/b.md" page.text] = .ok [page] := rfl
  have hid : page.context.pageId = "a-b".toList := by decide
  obtain ⟨-, hmarker, hlinks, hverbatim⟩ :=
    (pageIds_readBack book hpages).2 page (List.mem_singleton_self page)
  have hread := hverbatim _ rfl (by decide) (by decide)
  have hlisted : (page.collector book).listed.map (fun item => (item.2.name, item.1.count)) =
      [("1", 1)] := by decide +kernel
  have hitems : ("1", 1) ∈ (page.collector book).listed.map fun item =>
      (item.2.name, item.1.count) := by
    rw [hlisted]
    exact List.mem_singleton_self _
  obtain ⟨item, hitem, hpair⟩ := List.mem_map.mp hitems
  obtain ⟨hname, hcount⟩ := Prod.mk.inj hpair
  have hlink := (hlinks hread (by rw [hid]; decide) item hitem (backlink "a-b" "1" 1)
    (mem_backlinks.mpr ⟨1, by decide, by rw [hcount], by rw [hname, hid]; rfl⟩)).2
  rw [hid] at hlink hmarker hread
  exact ⟨hpages, hmarker.mpr hread, item, hitem, hname, hlink⟩

/-- A quote in a path ends the value of the marker and that of a link back in front of the rest of
the page id. -/
theorem pageIds_readBack_quote :
    let context : Context := ⟨some "a\"b.md".toList, []⟩
    context.pageId = "a\"b".toList ∧
      (pageMarker context.pageId).toList = "<div id=\"".toList ++ "a\"b\"></div>".toList ∧
      readValue "a\"b\"></div>".toList = some ("a".toList, "b\"></div>".toList) ∧
      ¬ MarkerReads context.pageId ∧
      (backlink (.ofList context.pageId) "1" 1).content.toList =
        " <a href=\"".toList ++ "#a\"b-fr-1-1\">↩</a>".toList ∧
      readValue "#a\"b-fr-1-1\">↩</a>".toList =
        some ("#a".toList, "b-fr-1-1\">↩</a>".toList) ∧
      ¬ BacklinkReads context.pageId (backlink (.ofList context.pageId) "1" 1) := by
  intro context
  have hid : context.pageId = "a\"b".toList := by decide
  have hmarker : ¬ MarkerReads context.pageId :=
    fun h => (markerReads_iff.mp h).no_quote (by decide)
  have hcontent : (backlink (.ofList context.pageId) "1" 1).content.toList =
      " <a href=\"".toList ++ "#a\"b-fr-1-1\">↩</a>".toList := by decide
  have hvalue : readValue "#a\"b-fr-1-1\">↩</a>".toList =
      some ("#a".toList, "b-fr-1-1\">↩</a>".toList) := by decide
  refine ⟨hid, by decide, by decide, hmarker, hcontent, hvalue, ?_⟩
  rintro ⟨behind, value, rest, hlink, hread, hbegins⟩
  rw [hcontent] at hlink
  rw [← List.append_cancel_left hlink, hvalue] at hread
  rw [← (Prod.mk.inj (Option.some.inj hread)).1, hid] at hbegins
  exact absurd hbegins (by decide)

end Folio.Book
