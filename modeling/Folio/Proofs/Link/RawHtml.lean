import Folio.Proofs.Link.Markup
import Folio.Proofs.Link.Moved

/-!
# Destinations in raw HTML

Resolving the destinations of a fragment of plain markup changes the values of image sources, anchor
names and link destinations, each by its own rule, and not one other character. Of the three scans
none disturbs what another one has written: each leaves plain markup behind, and no attribute is
changed by two of them.
-/

namespace Folio.Link

open Folio.Page Folio.Path Folio.Text

section Resolve

variable {context : Context} {value : List Char}
  (hpath : ∀ path, context.path = some path → IsInert path) (hvalue : IsPlainValue value)
include hpath hvalue

theorem IsPlainValue.resolveResource : IsPlainValue (resolveResource context value) := by
  rw [Link.resolveResource]
  split
  · exact hvalue
  · obtain ⟨path, redirects⟩ := context
    cases path with
    | none => exact hvalue
    | some path =>
      rw [basePrefix_append, beside]
      split
      · exact hvalue
      · have hdir : IsInert (parent path) := fun mark hmark hmem =>
          hpath path rfl mark hmark ((parent_isPrefix path).subset hmem)
        exact hvalue.behind_mark (isInert_append.mpr ⟨hdir, by decide⟩) (by decide)

theorem IsPlainValue.resolveName : IsPlainValue (resolveName context value) := by
  rw [Link.resolveName]
  obtain ⟨path, redirects⟩ := context
  cases path with
  | none => exact hvalue
  | some path =>
    have hsigns : ∀ mark ∈ markupMarks, mark.toNat < firstLetter ∧ mark ≠ '-' :=
      List.all_iff_forall_prop.mp (by decide)
    have hid : IsInert (pageId path) := fun mark hmark hmem =>
      hpath path rfl mark hmark
        (mem_of_mem_pageId hmem (hsigns mark hmark).1 (hsigns mark hmark).2)
    exact hvalue.behind_mark (isInert_append.mpr ⟨hid, by decide⟩) (by decide)

end Resolve

/-- What the value is resolved to in a tag of the element. An empty value is left alone. -/
def Attribute.resolvedValue (context : Context) (element : List Char) (attr : Attribute) :
    List Char :=
  if attr.value = [] then []
  else if element = "img".toList ∧ attr.key = "src".toList then resolveResource context attr.value
  else if element = "a".toList ∧ attr.key = "name".toList then
    if context.isPrint then context.pageId ++ '-' :: attr.value else attr.value
  else if element = "a".toList ∧ attr.key = "href".toList then resolveLink context attr.value
  else attr.value

/-- The part with its destinations resolved. -/
def Part.resolved (context : Context) : Part → Part
  | opening name attrs =>
    opening name (attrs.map fun attr => { attr with value := attr.resolvedValue context name })
  | part => part

section Resolved

variable (context : Context) (attr : Attribute)

/-- The two attributes of an anchor are resolved by a scan each. -/
theorem Attribute.resolved_anchor :
    (attr.mapValue "name".toList (resolveName context)).mapValue
      "href".toList (resolveLink context) =
        { attr with value := attr.resolvedValue context "a".toList } := by
  obtain ⟨key, value⟩ := attr
  by_cases hempty : value = []
  · have hnot (sought : List Char) : ¬ Attribute.IsSought sought ⟨key, value⟩ := fun h => h.2 hempty
    rw [mapValue_of_not_sought (hnot _), mapValue_of_not_sought (hnot _), resolvedValue,
      if_pos hempty, hempty]
  · have himage : ¬ ("a".toList = "img".toList ∧ key = "src".toList) :=
      fun h => absurd h.1 (by decide)
    rw [resolvedValue, if_neg hempty, if_neg himage]
    by_cases hname : key = "name".toList
    · have hsought : Attribute.IsSought "name".toList ⟨key, value⟩ := ⟨hname, hempty⟩
      have hnot : ¬ Attribute.IsSought "href".toList ⟨key, resolveName context value⟩ :=
        fun h => absurd (hname.symm.trans h.1) (by decide)
      rw [mapValue_of_sought hsought, mapValue_of_not_sought hnot, if_pos ⟨rfl, hname⟩]
      rfl
    · have hnot : ¬ Attribute.IsSought "name".toList ⟨key, value⟩ := fun h => hname h.1
      rw [mapValue_of_not_sought hnot, if_neg fun h => hname h.2]
      by_cases hhref : key = "href".toList
      · rw [mapValue_of_sought ⟨hhref, hempty⟩, if_pos ⟨rfl, hhref⟩]
      · rw [mapValue_of_not_sought fun h => hhref h.1, if_neg fun h => hhref h.2]

/-- An image has one attribute that is resolved. -/
theorem Attribute.resolved_image :
    attr.mapValue "src".toList (resolveResource context) =
      { attr with value := attr.resolvedValue context "img".toList } := by
  have hanchor (key : List Char) : ¬ ("img".toList = "a".toList ∧ attr.key = key) :=
    fun h => absurd h.1 (by decide)
  rw [resolvedValue, if_neg (hanchor _), if_neg (hanchor _)]
  by_cases hempty : attr.value = []
  · rw [mapValue_of_not_sought fun h => h.2 hempty, if_pos hempty, ← hempty]
  · rw [if_neg hempty]
    by_cases hsrc : attr.key = "src".toList
    · rw [mapValue_of_sought ⟨hsrc, hempty⟩, if_pos ⟨rfl, hsrc⟩]
    · rw [mapValue_of_not_sought fun h => hsrc h.1, if_neg fun h => hsrc h.2]

/-- Other elements have none. -/
theorem Attribute.resolvedValue_of_ne {element : List Char} (himage : element ≠ "img".toList)
    (hanchor : element ≠ "a".toList) : attr.resolvedValue context element = attr.value := by
  by_cases hempty : attr.value = []
  · rw [resolvedValue, if_pos hempty, hempty]
  · rw [resolvedValue, if_neg hempty, if_neg fun h => himage h.1, if_neg fun h => hanchor h.1,
      if_neg fun h => hanchor h.1]

/-- A part is resolved by three scans. -/
theorem Part.resolved_eq (part : Part) :
    part.resolved context =
      ((part.mapValue "img".toList "src".toList (resolveResource context)).mapValue
        "a".toList "name".toList (resolveName context)).mapValue
          "a".toList "href".toList (resolveLink context) := by
  cases part with
  | text cs => rfl
  | closing name => rfl
  | opening name attrs =>
    simp only [Part.resolved, Part.mapValue]
    by_cases himage : name = "img".toList
    · have hanchor : name ≠ "a".toList := fun h => absurd (himage.symm.trans h) (by decide)
      rw [if_neg hanchor, if_neg hanchor, if_pos himage, himage]
      congr 2
      funext attr
      exact (attr.resolved_image context).symm
    · rw [if_neg himage]
      by_cases hanchor : name = "a".toList
      · rw [if_pos hanchor, if_pos hanchor, List.map_map, hanchor]
        congr 2
        funext attr
        exact (attr.resolved_anchor context).symm
      · rw [if_neg hanchor, if_neg hanchor]
        congr 1
        apply map_eq_self
        intro attr _
        rw [attr.resolvedValue_of_ne context himage hanchor]

end Resolved

/-- Resolving a fragment of raw HTML changes its destinations, each by the rule for its attribute,
and nothing else. -/
theorem resolveHtml_fragment {context : Context} {parts : List Part}
    (hpath : ∀ path, context.path = some path → IsInert path)
    (hparts : ∀ part ∈ parts, part.IsPlain) :
    resolveHtml context (fragment parts) = fragment (parts.map (Part.resolved context)) := by
  have himg : IsPlainName "img".toList := by decide
  have ha : IsPlainName "a".toList := by decide
  have hsrc : "src".toList ∈ resolvedKeys := by decide
  have hname : "name".toList ∈ resolvedKeys := by decide
  have hhref : "href".toList ∈ resolvedKeys := by decide
  -- Each scan leaves plain parts to the next one; what the last one leaves is not scanned again.
  let images := parts.map (Part.mapValue "img".toList "src".toList (resolveResource context))
  let names := images.map (Part.mapValue "a".toList "name".toList (resolveName context))
  have himages : ∀ part ∈ images, part.IsPlain := List.forall_mem_map.mpr fun part hpart =>
    (hparts part hpart).mapValue fun _ hvalue => hvalue.resolveResource hpath
  have hnames : ∀ part ∈ names, part.IsPlain := List.forall_mem_map.mpr fun part hpart =>
    (himages part hpart).mapValue fun _ hvalue => hvalue.resolveName hpath
  have hresolved : parts.map (Part.resolved context) =
      names.map (Part.mapValue "a".toList "href".toList (resolveLink context)) := by
    simp only [names, images, List.map_map]
    exact List.map_congr_left fun part _ => part.resolved_eq context
  calc resolveHtml context (fragment parts)
      = mapAttribute "<a ".toList "href=\"".toList (resolveLink context)
          (mapAttribute "<a ".toList "name=\"".toList (resolveName context) (fragment images)) :=
        congrArg (fun html => mapAttribute "<a ".toList "href=\"".toList (resolveLink context)
          (mapAttribute "<a ".toList "name=\"".toList (resolveName context) html))
          (mapAttribute_fragment hsrc himg hparts)
    _ = mapAttribute "<a ".toList "href=\"".toList (resolveLink context) (fragment names) :=
        congrArg _ (mapAttribute_fragment hname ha himages)
    _ = fragment (names.map (Part.mapValue "a".toList "href".toList (resolveLink context))) :=
        mapAttribute_fragment hhref ha hnames
    _ = fragment (parts.map (Part.resolved context)) := by rw [hresolved]

/-- An anchor with a name and a destination, in a chapter of the print page, and an image behind
it. The text between its tags is no attribute. -/
theorem resolveHtml_fragment_anchor :
    let context : Context := ⟨some "guide/start.md".toList, []⟩
    let parts : List Part := [
      .opening "a".toList [⟨"name".toList, "top".toList⟩, ⟨"class".toList, "x name".toList⟩,
        ⟨"href".toList, "page.md".toList⟩],
      .text "> src=\"y\"".toList,
      .closing "a".toList,
      .opening "img".toList [⟨"alt".toList, []⟩, ⟨"src".toList, "pic.png".toList⟩]]
    (∀ path, context.path = some path → IsInert path) ∧ (∀ part ∈ parts, part.IsPlain) ∧
      resolveHtml context (fragment parts) = fragment (parts.map (Part.resolved context)) ∧
      fragment parts = ("<a name=\"top\" class=\"x name\" href=\"page.md\">> src=\"y\"</a>" ++
        "<img alt=\"\" src=\"pic.png\">").toList ∧
      fragment (parts.map (Part.resolved context)) =
        ("<a name=\"guide-start-top\" class=\"x name\" href=\"#guide-page\">> src=\"y\"</a>" ++
          "<img alt=\"\" src=\"guide/pic.png\">").toList := by
  intro context parts
  have hpath : ∀ path, context.path = some path → IsInert path := by
    rintro _ ⟨⟩
    decide
  have hparts : ∀ part ∈ parts, part.IsPlain := by decide
  exact ⟨hpath, hparts, resolveHtml_fragment hpath hparts, by decide, by decide⟩

end Folio.Link
