import Folio.Link.Tokens
import Folio.Page.Structure
import Folio.Proofs.Page.Heading

/-!
# Headings on their way through the passes

Before headings are anchored, destinations are resolved and tables are wrapped. Neither adds or
drops a heading, and the slug of a heading depends on the resolved destinations only through its raw
HTML: tags that end where they seem to are dropped from slugs together with what they say.
-/

namespace Folio.Anchor

/-- What stands in front of all tags is kept. -/
theorem dropTags_append {s : List Char} (h : '<' ∉ s) (t : List Char) :
    dropTags (s ++ t) = s ++ dropTags t := by
  induction s with
  | nil => rfl
  | cons c s ih =>
    rw [List.mem_cons, not_or] at h
    rw [List.cons_append, dropTags, dropTagsFrom]
    simp only [if_neg (Ne.symm h.1)]
    exact congrArg (c :: ·) (ih h.2)

/-- A tag on one line that ends at the first angle bracket behind its own. -/
def IsPlainTag (html : List Char) : Prop :=
  ∃ body, html = '<' :: (body ++ ['>']) ∧ '>' ∉ body ∧ '\n' ∉ body

/-- An open tag is passed over up to its end. -/
private theorem dropTagsFrom_body {body : List Char} (hend : '>' ∉ body) (hline : '\n' ∉ body)
    (tag t : List Char) : dropTagsFrom (some tag) (body ++ '>' :: t) = dropTags t := by
  induction body generalizing tag with
  | nil => rfl
  | cons c body ih =>
    rw [List.mem_cons, not_or] at hend hline
    rw [List.cons_append, dropTagsFrom]
    simp only [if_neg (Ne.symm hend.1), if_neg (Ne.symm hline.1)]
    exact ih hend.2 hline.2 (c :: tag)

/-- A plain tag is dropped whatever it says. -/
theorem dropTags_tag {tag : List Char} (h : IsPlainTag tag) (t : List Char) :
    dropTags (tag ++ t) = dropTags t := by
  obtain ⟨body, rfl, hend, hline⟩ := h
  rw [List.cons_append, List.append_assoc, dropTags, dropTagsFrom]
  simp only [if_pos]
  exact dropTagsFrom_body hend hline ['<'] t

/-- Slugs are made of what is left without tags. -/
theorem slug_congr {content other : List Char} (h : dropTags content = dropTags other) :
    slug content = slug other := by
  rw [slug, slug, h]

end Folio.Anchor

namespace Folio.Text

/-- Escaped text opens no tag. -/
theorem open_not_mem_escapeHtml (cs : List Char) : '<' ∉ escapeHtml cs := by
  intro hmem
  obtain ⟨c, -, hc⟩ := List.mem_flatMap.mp hmem
  split at hc
  · rename_i hspecial
    simp only [Bool.or_eq_true, decide_eq_true_eq] at hspecial
    rcases hspecial with ((rfl | rfl) | rfl) | rfl <;> exact absurd hc (by decide)
  · rename_i hplain
    rw [List.mem_singleton] at hc
    exact hplain (by rw [← hc]; decide)

end Folio.Text

namespace Folio.Token

theorem kind_mapAttr (token : Token) (name : String) (f : List Char → List Char) :
    (token.mapAttr name f).kind = token.kind := by
  rw [mapAttr]
  split <;> rfl

/-- Resolving destinations leaves the kind of a token as it is. -/
theorem kind_resolveLinks (context : Page.Context) (token : Token) :
    (token.resolveLinks context).kind = token.kind := by
  by_cases h : token.kind = .inline
  · rw [resolveLinks_of_inline context token h]
  · rw [resolveLinks_of_ne_inline context token h]
    unfold resolveOwn
    split
    · split
      · rfl
      · exact kind_mapAttr ..
    · exact kind_mapAttr ..
    · rfl
    · rfl
    · rfl

end Folio.Token

namespace Folio.Page

open Folio.Anchor Folio.Text

section Passes

/-- A heading whose tokens are changed, but not in kind. -/
def Heading.map (f : Token → Token) (hkind : ∀ token, (f token).kind = token.kind)
    (heading : Heading) : Heading where
  opening := f heading.opening
  inline := f heading.inline
  opens := (hkind heading.opening).trans heading.opens
  holdsText := (hkind heading.inline).trans heading.holdsText

/-- Tokens that keep their kinds make the same headings. -/
theorem headings_map {f : Token → Token} (hkind : ∀ token, (f token).kind = token.kind)
    (tokens : List Token) :
    headings (tokens.map f) = (headings tokens).map (Heading.map f hkind) := by
  induction tokens using headings.induct with
  | case1 => rfl
  | case2 token hopen => simp [headings]
  | case3 token hopen next rest hinline ih =>
    rw [List.map_cons, List.map_cons, headings_heading hopen hinline, List.map_cons, ← ih]
    exact headings_heading ((hkind token).trans hopen) ((hkind next).trans hinline) _
  | case4 token hopen next rest hnot ih =>
    rw [List.map_cons, List.map_cons, headings_passed hopen hnot, ← ih]
    exact headings_passed ((hkind token).trans hopen) (fun h => hnot ((hkind next).symm.trans h)) _
  | case5 token rest hnot ih =>
    rw [List.map_cons, headings_other hnot, ← ih]
    exact headings_other (fun h => hnot ((hkind token).symm.trans h)) _

/-- Only tables get tokens beside them. -/
theorem wrapTable_of_ne {token : Token} (hopen : token.kind ≠ .tableOpen)
    (hclose : token.kind ≠ .tableClose) : wrapTable token = [token] := by
  unfold wrapTable
  split
  · rename_i h
    exact absurd h hopen
  · rename_i h
    exact absurd h hclose
  · rfl

/-- What wrapping makes of a token that does not open a heading makes no heading either. -/
private theorem headings_wrapTable_append {token : Token} (h : token.kind ≠ .headingOpen)
    (rest : List Token) : headings (wrapTable token ++ rest) = headings rest := by
  have hwrapper : ∀ content, (Token.html content).kind ≠ .headingOpen := nofun
  unfold wrapTable
  split
  · rw [List.cons_append, List.cons_append, tableWrapperOpen, headings_other (hwrapper _),
      headings_other h, List.nil_append]
  · rw [List.cons_append, List.cons_append, headings_other h, tableWrapperClose,
      headings_other (hwrapper _), List.nil_append]
  · rw [List.cons_append, headings_other h, List.nil_append]

/-- Behind a token that opens a heading, wrapping a token other than its text makes no heading. -/
private theorem headings_wrapTable_passed {token next : Token} (hopen : token.kind = .headingOpen)
    (hnot : next.kind ≠ .inline) (rest : List Token) :
    headings (token :: (wrapTable next ++ rest)) = headings rest := by
  have hwrapper : ∀ content, (Token.html content).kind ≠ .headingOpen := nofun
  unfold wrapTable
  split
  · -- The wrapper is passed over in place of the table, which is then met on its own.
    rename_i htable
    have hother : next.kind ≠ .headingOpen := fun h => nomatch htable.symm.trans h
    have hpassed : tableWrapperOpen.kind ≠ .inline := nofun
    rw [List.cons_append, List.cons_append, headings_passed hopen hpassed, headings_other hother,
      List.nil_append]
  · rw [List.cons_append, List.cons_append, headings_passed hopen hnot, tableWrapperClose,
      headings_other (hwrapper _), List.nil_append]
  · rw [List.cons_append, headings_passed hopen hnot, List.nil_append]

/-- Wrapping tables leaves the headings as they are. -/
theorem headings_wrapTables (tokens : List Token) :
    headings (wrapTables tokens) = headings tokens := by
  have hcons : ∀ token rest, wrapTables (token :: rest) = wrapTable token ++ wrapTables rest :=
    fun _ _ => List.flatMap_cons
  have hopening : ∀ {token : Token}, token.kind = .headingOpen → wrapTable token = [token] :=
    fun hopen => wrapTable_of_ne (by rw [hopen]; decide) (by rw [hopen]; decide)
  induction tokens using headings.induct with
  | case1 => rfl
  | case2 token hopen => rw [hcons, hopening hopen]; rfl
  | case3 token hopen next rest hinline ih =>
    have hnext : wrapTable next = [next] :=
      wrapTable_of_ne (by rw [hinline]; decide) (by rw [hinline]; decide)
    rw [hcons, hcons, hopening hopen, hnext, headings_heading hopen hinline, ← ih]
    exact headings_heading hopen hinline _
  | case4 token hopen next rest hnot ih =>
    rw [hcons, hcons, hopening hopen, headings_passed hopen hnot, ← ih]
    exact headings_wrapTable_passed hopen hnot _
  | case5 token rest hnot ih =>
    rw [hcons, headings_wrapTable_append hnot, headings_other hnot, ih]

end Passes

section Resolved

variable (context : Context)

/-- A heading with its destinations resolved. -/
def Heading.resolved (heading : Heading) : Heading :=
  heading.map (Token.resolveLinks context) (Token.kind_resolveLinks context)

theorem Heading.resolved_opening (heading : Heading) :
    (heading.resolved context).opening = heading.opening.resolveLinks context := rfl

theorem Heading.resolved_inline (heading : Heading) :
    (heading.resolved context).inline = heading.inline.resolveLinks context := rfl

/-- The raw HTML of a heading consists of plain tags. -/
def Heading.HasPlainTags (heading : Heading) : Prop :=
  ∀ child ∈ heading.inline.childList, child.kind = .htmlInline → IsPlainTag child.content.toList

/-- What a child of a heading adds to the slug if raw HTML adds nothing. -/
private def visiblePart (child : Token) : List Char :=
  if child.kind = .htmlInline then [] else headingPart child

private theorem open_not_mem_headingPart {child : Token} (h : child.kind ≠ .htmlInline) :
    '<' ∉ headingPart child := by
  unfold headingPart
  split
  · exact open_not_mem_escapeHtml _
  · exact open_not_mem_escapeHtml _
  · rename_i hhtml
    exact absurd hhtml h
  · decide
  · decide
  · exact List.not_mem_nil

private theorem dropTags_headingParts {children : List Token}
    (h : ∀ child ∈ children, child.kind = .htmlInline → IsPlainTag child.content.toList) :
    dropTags (children.flatMap headingPart) = children.flatMap visiblePart := by
  induction children with
  | nil => rfl
  | cons child rest ih =>
    have hrest := ih fun other hother => h other (List.mem_cons_of_mem _ hother)
    rw [List.flatMap_cons, List.flatMap_cons, visiblePart]
    by_cases hhtml : child.kind = .htmlInline
    · have hpart : headingPart child = child.content.toList := by rw [headingPart, hhtml]
      rw [if_pos hhtml, hpart, dropTags_tag (h child List.mem_cons_self hhtml), hrest,
        List.nil_append]
    · rw [if_neg hhtml, dropTags_append (open_not_mem_headingPart hhtml), hrest]

private theorem resolveLinks_eq_self {child : Token}
    (h : child.kind = .text ∨ child.kind = .codeInline) : child.resolveLinks context = child := by
  have hne : child.kind ≠ .inline := by rcases h with h | h <;> rw [h] <;> nofun
  rw [Token.resolveLinks_of_ne_inline context child hne, Token.resolveOwn]
  rcases h with h | h <;> rw [h]

/-- Resolving destinations changes links and raw HTML, and links add nothing to the slug. -/
private theorem visiblePart_resolveLinks (child : Token) :
    visiblePart (child.resolveLinks context) = visiblePart child := by
  rw [visiblePart, visiblePart, Token.kind_resolveLinks]
  by_cases hhtml : child.kind = .htmlInline
  · rw [if_pos hhtml, if_pos hhtml]
  · rw [if_neg hhtml, if_neg hhtml, headingPart, headingPart, Token.kind_resolveLinks]
    split
    · rename_i htext
      rw [resolveLinks_eq_self context (Or.inl htext)]
    · rename_i hcode
      rw [resolveLinks_eq_self context (Or.inr hcode)]
    · rename_i hkind
      exact absurd hkind hhtml
    · rfl
    · rfl
    · rfl

/-- A token that opens a heading carries no destination. -/
theorem Heading.resolved_opening_eq (heading : Heading) :
    (heading.resolved context).opening = heading.opening := by
  have hne : heading.opening.kind ≠ .inline := by rw [heading.opens]; nofun
  rw [resolved_opening, Token.resolveLinks_of_ne_inline context _ hne, Token.resolveOwn,
    heading.opens]

private theorem dropTags_headingText_resolved {heading : Heading}
    (h : (heading.resolved context).HasPlainTags) :
    dropTags (headingText (heading.resolved context).inline) =
      heading.inline.childList.flatMap visiblePart := by
  have hchildren : (heading.resolved context).inline.childList =
      heading.inline.childList.map (Token.resolveLinks context) := by
    rw [Heading.resolved_inline, Token.resolveLinks_of_inline context _ heading.holdsText]
    unfold Token.childList
    cases heading.inline.children <;> rfl
  rw [headingText, dropTags_headingParts h, hchildren, List.flatMap_map]
  simp only [visiblePart_resolveLinks]

/-- The slug of a heading does not depend on where its destinations lead, if its raw HTML consists
of plain tags. -/
theorem Heading.slug?_resolved_congr {context other : Context} {heading : Heading}
    (h : (heading.resolved context).HasPlainTags) (hother : (heading.resolved other).HasPlainTags) :
    (heading.resolved context).slug? = (heading.resolved other).slug? := by
  have hslug : slug (headingText (heading.resolved context).inline) =
      slug (headingText (heading.resolved other).inline) := by
    apply slug_congr
    rw [dropTags_headingText_resolved context h, dropTags_headingText_resolved other hother]
  rw [slug?, slug?, resolved_opening_eq, resolved_opening_eq, hslug]

end Resolved

end Folio.Page
