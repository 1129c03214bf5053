import Folio.Proofs.Page.HeadingText
import Folio.Proofs.Text.Pieces
import Mathlib.Data.Bool.AllAny

/-!
# Slugs of the text that headings show

The text of a heading is escaped before tags and entities are dropped from it. Escaping opens no
tag, and every entity that is found in escaped text is the spelling of one character, so nothing is
dropped but the characters that are escaped, also where the text itself spells tags or entities.
-/

namespace Folio.Text

/-- The characters that serialized HTML writes as entities. -/
def htmlSpecials : List Char := ['&', '<', '>', '\x22']

/-- The spelling of one character in serialized HTML. -/
def htmlEscape (c : Char) : List Char := if c ∈ htmlSpecials then specialEscape c else [c]

/-- Text is escaped character by character. -/
theorem escapeHtml_eq_flatMap (cs : List Char) : escapeHtml cs = cs.flatMap htmlEscape := by
  have hescape : ∀ c ∈ cs, (if c = '&' || c = '<' || c = '>' || c = '\x22' then specialEscape c
      else [c]) = htmlEscape c := by
    intro c _
    simp [htmlEscape, htmlSpecials, or_assoc]
  exact List.flatMap_congr hescape

theorem htmlEscape_of_not_mem {c : Char} (h : c ∉ htmlSpecials) : htmlEscape c = [c] := if_neg h

/-- Escaping changes nothing in a text without special characters. -/
theorem escapeHtml_eq_self {cs : List Char} (h : ∀ c ∈ cs, c ∉ htmlSpecials) :
    escapeHtml cs = cs := by
  rw [escapeHtml_eq_flatMap, List.flatMap_congr fun c hc => htmlEscape_of_not_mem (h c hc)]
  exact List.flatMap_singleton' cs

end Folio.Text

namespace Folio.Anchor

open Folio.Text

/-- No entity begins like the spelling of a character, unless it is that spelling. -/
theorem eq_entity_of_prefix : ∀ c ∈ htmlSpecials, ∀ entity ∈ entities,
    entity <+: htmlEscape c ∨ htmlEscape c <+: entity → htmlEscape c = entity :=
  List.all_iff_forall_prop.mp (by decide)

theorem head?_entity : ∀ entity ∈ entities, entity.head? = some '&' := by decide

/-- The spelling of a special character begins with an ampersand and holds no other. -/
theorem htmlEscape_ampersand : ∀ c ∈ htmlSpecials,
    (htmlEscape c).head? = some '&' ∧ '&' ∉ (htmlEscape c).tail :=
  List.all_iff_forall_prop.mp (by decide)

section Entity

variable {entity : List Char} (hentity : entity ∈ entities)
include hentity

/-- Behind an escaped character the search for an entity starts anew, and the character is dropped
exactly if it is written as that entity. -/
theorem replaceAll_htmlEscape_append (c : Char) (rest : List Char) :
    replaceAll entity [] (htmlEscape c ++ rest) =
      (if htmlEscape c = entity then [] else htmlEscape c) ++ replaceAll entity [] rest := by
  have hhead := head?_entity entity hentity
  by_cases hsame : htmlEscape c = entity
  · have hne : entity ≠ [] := by
      rintro rfl
      exact absurd hhead nofun
    rw [if_pos hsame, hsame, replaceAll_append hne]
  · rw [if_neg hsame]
    by_cases hc : c ∈ htmlSpecials
    · -- The entity begins neither at the ampersand of the spelling nor behind it, up to the rest.
      obtain ⟨hfirst, htail⟩ := htmlEscape_ampersand c hc
      obtain ⟨name, hname⟩ := List.head?_eq_some_iff.mp hfirst
      have hprefix : entity.isPrefixOf (htmlEscape c ++ rest) = false := by
        refine Bool.eq_false_iff.mpr fun hp => hsame ?_
        apply eq_entity_of_prefix c hc entity hentity
        exact List.prefix_or_prefix_of_prefix (List.isPrefixOf_iff_prefix.mp hp)
          (List.prefix_append _ _)
      rw [hname, List.cons_append] at hprefix
      rw [hname, List.tail_cons] at htail
      rw [hname, List.cons_append, List.cons_append, replaceAll_cons hprefix,
        replaceAll_append_of_not_mem hhead htail]
    · have hnot : '&' ∉ [c] := by
        intro hmem
        rw [← List.mem_singleton.mp hmem] at hc
        exact hc List.mem_cons_self
      rw [htmlEscape_of_not_mem hc]
      exact replaceAll_append_of_not_mem hhead hnot [] rest

/-- Dropping an entity from escaped text drops the characters that are written as it. -/
theorem replaceAll_escapeHtml (cs : List Char) :
    replaceAll entity [] (escapeHtml cs) = escapeHtml (cs.filter (htmlEscape · ≠ entity)) := by
  rw [escapeHtml_eq_flatMap, escapeHtml_eq_flatMap]
  induction cs with
  | nil => rfl
  | cons c cs ih =>
    rw [List.flatMap_cons, replaceAll_htmlEscape_append hentity, ih, List.filter_cons]
    by_cases hsame : htmlEscape c = entity
    · simp [hsame]
    · simp [hsame]

end Entity

/-- Dropping several kinds of entities drops the characters that are written as any of them. -/
theorem foldl_replaceAll_escapeHtml {words : List (List Char)} (h : words ⊆ entities)
    (cs : List Char) :
    words.foldl (fun text word => replaceAll word [] text) (escapeHtml cs) =
      escapeHtml (cs.filter (htmlEscape · ∉ words)) := by
  induction words generalizing cs with
  | nil => simp
  | cons word words ih =>
    rw [List.cons_subset] at h
    rw [List.foldl_cons, replaceAll_escapeHtml h.1, ih h.2, List.filter_filter]
    have hboth : ∀ c, (decide (htmlEscape c ∉ words) && decide (htmlEscape c ≠ word)) =
        decide (htmlEscape c ∉ word :: words) := by
      intro c
      rw [← Bool.decide_and]
      apply decide_eq_decide.mpr
      rw [List.mem_cons, not_or, and_comm]
    simp only [hboth]

/-- Every special character is written as an entity, and no other is. -/
theorem htmlEscape_mem_entities_iff (c : Char) : htmlEscape c ∈ entities ↔ c ∈ htmlSpecials := by
  constructor
  · intro hmem
    by_contra hc
    rw [htmlEscape_of_not_mem hc] at hmem
    have hlength : ∀ entity ∈ entities, entity.length ≠ 1 := by decide
    exact hlength [c] hmem rfl
  · have hspecial : ∀ c ∈ htmlSpecials, htmlEscape c ∈ entities :=
      List.all_iff_forall_prop.mp (by decide)
    exact hspecial c

/-- Dropping entities from escaped text drops the special characters and nothing else. -/
theorem dropEntities_escapeHtml (cs : List Char) :
    dropEntities (escapeHtml cs) = cs.filter (· ∉ htmlSpecials) := by
  have hfold := foldl_replaceAll_escapeHtml (List.Subset.refl entities) cs
  simp only [htmlEscape_mem_entities_iff] at hfold
  rw [dropEntities, hfold]
  apply escapeHtml_eq_self
  intro c hc
  exact of_decide_eq_true (List.mem_filter.mp hc).2

/-- The slug of escaped text is that of the text without the special characters. -/
theorem slug_escapeHtml (cs : List Char) :
    slug (escapeHtml cs) =
      normalizeId (strip ((strip (cs.filter (· ∉ htmlSpecials))).dropWhile (· = '#'))) := by
  have htags : dropTags (escapeHtml cs) = escapeHtml cs := by
    have happend := dropTags_append (open_not_mem_escapeHtml cs) []
    have hnil : dropTags [] = [] := rfl
    rwa [hnil, List.append_nil] at happend
  rw [slug, htags, dropEntities_escapeHtml]

end Folio.Anchor

namespace Folio.Page

open Folio.Anchor Folio.Text

/-- The text that a child of a heading shows: its own, or a blank for a line break. -/
def shownPart (child : Token) : List Char :=
  match child.kind with
  | .text | .codeInline => child.content.toList
  | .softBreak | .hardBreak => [' ']
  | _ => []

/-- The text that a heading shows. -/
def shownText (inline : Token) : List Char := inline.childList.flatMap shownPart

/-- Apart from raw HTML, the text that the id of a heading is made of is the text it shows,
escaped. -/
theorem headingText_eq_escapeHtml {inline : Token}
    (h : ∀ child ∈ inline.childList, child.kind ≠ .htmlInline) :
    headingText inline = escapeHtml (shownText inline) := by
  have hpart : ∀ child ∈ inline.childList, headingPart child = escapeHtml (shownPart child) := by
    intro child hchild
    unfold headingPart shownPart
    cases hkind : child.kind with
    | htmlInline => exact absurd hkind (h child hchild)
    | _ => rfl
  rw [headingText, List.flatMap_congr hpart, shownText, escapeHtml, List.flatMap_assoc]
  rfl

/-- The slug of a heading without raw HTML depends on the text it shows only, of which angle
brackets, ampersands and double quotes vanish. -/
theorem slug_headingText {inline : Token}
    (h : ∀ child ∈ inline.childList, child.kind ≠ .htmlInline) :
    slug (headingText inline) =
      normalizeId (strip ((strip ((shownText inline).filter (· ∉ htmlSpecials))).dropWhile
        (· = '#'))) := by
  rw [headingText_eq_escapeHtml h, slug_escapeHtml]

/-- A heading that spells a tag and two entities out, over two lines. -/
theorem slug_headingText_spelled :
    let inline : Token :=
      { kind := .inline
        children := some [{ kind := .text, content := "# A&lt;<T>" }, { kind := .softBreak },
          { kind := .codeInline, content := "\"B\" & &#39;C" }] }
    (∀ child ∈ inline.childList, child.kind ≠ .htmlInline) ∧
      shownText inline = "# A&lt;<T> \"B\" & &#39;C".toList ∧
      slug (headingText inline) = "altt-b--39c".toList := by
  intro inline
  have hplain : ∀ child ∈ inline.childList, child.kind ≠ .htmlInline := by decide
  exact ⟨hplain, by decide, (slug_headingText hplain).trans (by decide)⟩

end Folio.Page
