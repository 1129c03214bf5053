import Folio.Proofs.Markdown.AttributeBlock
import Folio.Proofs.Markdown.Block
import Folio.Proofs.Text.Pieces
import Folio.Proofs.Token.Attributes

/-!
# Lifting attributes is all or nothing

A heading either loses the block at the end of its text and gains exactly what the block sets, or it
keeps both its text and its attributes. Which of the two happens is a matter of the text alone: it
ends with a block that the reader accepts, or it does not.
-/

namespace Folio.Markdown

open Folio.Text Token

/-! ## Blocks at the end of a text -/

/-- A block in braces at the end of a content, blanks on both sides of it aside. -/
structure TrailingBlock (content : List Char) where
  text : List Char
  gap : List Char
  inner : List Char
  tail : List Char
  content_eq : content = text ++ gap ++ '{' :: inner ++ '}' :: tail
  text_end : ∀ c, text.getLast? = some c → isBlank c = false
  gap_blank : ∀ c ∈ gap, isBlank c = true
  inner_inside : ∀ c ∈ inner, c ≠ '{' ∧ c ≠ '}' ∧ c ≠ '\n'
  tail_blank : ∀ c ∈ tail, isBlank c = true

/-- The block with its braces. -/
def TrailingBlock.block {content : List Char} (trailing : TrailingBlock content) : List Char :=
  '{' :: trailing.inner ++ ['}']

theorem isInsideBlock_iff {c : Char} : isInsideBlock c = true ↔ c ≠ '{' ∧ c ≠ '}' ∧ c ≠ '\n' := by
  simp only [isInsideBlock, Bool.and_eq_true, decide_eq_true_eq, and_assoc]

variable {content text block : List Char}

/-- Splitting finds a block that is there. -/
theorem splitBlock?_eq_some (trailing : TrailingBlock content) :
    splitBlock? content = some (trailing.text, trailing.block) := by
  obtain ⟨text, gap, inner, tail, rfl, htext, hgap, hinner, htail⟩ := trailing
  have hinside : ∀ c ∈ inner.reverse, isInsideBlock c = true := fun c hc =>
    isInsideBlock_iff.mpr (hinner c (List.mem_reverse.mp hc))
  have hstrip : stripEnd (text ++ gap ++ '{' :: inner ++ '}' :: tail) =
      text ++ gap ++ '{' :: inner ++ ['}'] := by
    rw [List.append_cons _ '}' tail, stripEnd, dropEndWhile_append htail]
    apply dropEndWhile_eq_self
    intro c hc
    rw [List.getLast?_concat, Option.some.injEq] at hc
    exact hc ▸ rfl
  have hreverse : (text ++ gap ++ '{' :: inner ++ ['}']).reverse =
      '}' :: (inner.reverse ++ '{' :: (text ++ gap).reverse) := by
    simp only [List.reverse_append, List.reverse_cons, List.reverse_nil, List.nil_append,
      List.cons_append, List.append_assoc]
  have hopen : isInsideBlock '{' = false := rfl
  rw [splitBlock?, hstrip, hreverse]
  simp only [List.dropWhile_append_of_pos hinside, List.takeWhile_append_of_pos hinside,
    List.dropWhile_cons, List.takeWhile_cons, hopen, Bool.false_eq_true, ite_false,
    List.append_nil, List.reverse_reverse]
  rw [stripEnd, dropEndWhile_append hgap, dropEndWhile_eq_self htext]
  rfl

/-- What splitting finds is a block at the end of the content. -/
theorem exists_trailingBlock (h : splitBlock? content = some (text, block)) :
    ∃ trailing : TrailingBlock content, trailing.text = text ∧ trailing.block = block := by
  rw [splitBlock?] at h
  split at h
  · next before hbefore =>
    split at h
    · next rest hrest =>
      rw [Option.some.injEq, Prod.mk.injEq] at h
      obtain ⟨tail, hcontent, htail⟩ := exists_dropEndWhile_append isBlank content
      obtain ⟨gap, hgap, hblank⟩ := exists_dropEndWhile_append isBlank rest.reverse
      -- The signs in front of the closing brace, read forwards again.
      have hsplit : before.reverse =
          rest.reverse ++ '{' :: (before.takeWhile isInsideBlock).reverse := by
        conv_lhs => rw [← List.takeWhile_append_dropWhile (p := isInsideBlock) (l := before), hrest]
        rw [List.reverse_append, List.reverse_cons, List.append_assoc, List.singleton_append]
      have hstrip : stripEnd content = before.reverse ++ ['}'] := by
        rw [← List.reverse_reverse (stripEnd content), hbefore, List.reverse_cons]
      refine ⟨⟨stripEnd rest.reverse, gap, (before.takeWhile isInsideBlock).reverse, tail, ?_,
        fun c hc => eq_false_of_getLast?_dropEndWhile hc, hblank, fun c hc => ?_, htail⟩,
        h.1, h.2⟩
      · rw [stripEnd, ← hgap, ← hsplit, List.append_cons, ← hstrip]
        exact hcontent
      · exact isInsideBlock_iff.mp (List.mem_takeWhile_imp (List.mem_reverse.mp hc))
    · exact nomatch h
  · exact nomatch h

/-- The reader takes a block for attributes: what it leaves of the block is closing braces and
blanks behind them. -/
def AttributeReader.Accepts (read? : AttributeReader) (block : List Char)
    (attributes : List (String × String)) : Prop :=
  ∃ n braces blanks, read? block = some (n, attributes) ∧ block.drop n = braces ++ blanks ∧
    (∀ c ∈ braces, c = '}') ∧ ∀ c ∈ blanks, isBlank c = true

/-- Behind closing braces stand blanks only. -/
theorem strip_dropWhile_eq_nil_iff {cs : List Char} :
    strip (cs.dropWhile (· = '}')) = [] ↔
      ∃ braces blanks, cs = braces ++ blanks ∧ (∀ c ∈ braces, c = '}') ∧
        ∀ c ∈ blanks, isBlank c = true := by
  rw [strip_eq_nil_iff]
  constructor
  · intro h
    refine ⟨_, _, List.takeWhile_append_dropWhile.symm, fun c hc => ?_, h⟩
    have hbrace := List.mem_takeWhile_imp hc
    exact of_decide_eq_true hbrace
  · rintro ⟨braces, blanks, rfl, hbraces, hblanks⟩ c hc
    rw [List.dropWhile_append_of_pos fun c hc => decide_eq_true (hbraces c hc)] at hc
    exact hblanks c ((List.dropWhile_sublist _).subset hc)

variable {read? : AttributeReader} {attributes : List (String × String)}

/-- A block is lifted if it stands at the end and the reader accepts it. -/
theorem liftBlock?_eq_some_iff {content lifted : String} :
    liftBlock? read? content = some (lifted, attributes) ↔
      ∃ trailing : TrailingBlock content.toList,
        lifted = .ofList trailing.text ∧ read?.Accepts trailing.block attributes := by
  rw [liftBlock?]
  constructor
  · intro h
    split at h
    · exact nomatch h
    · next text block hsplit =>
      obtain ⟨trailing, rfl, rfl⟩ := exists_trailingBlock hsplit
      split at h
      · exact nomatch h
      · next n read hread =>
        split at h
        · next hstrip =>
          rw [Option.some.injEq, Prod.mk.injEq] at h
          obtain ⟨braces, blanks, hrest⟩ := strip_dropWhile_eq_nil_iff.mp hstrip
          exact ⟨trailing, h.1.symm, n, braces, blanks, h.2 ▸ hread, hrest⟩
        · exact nomatch h
  · rintro ⟨trailing, rfl, n, braces, blanks, hread, hrest⟩
    have hstrip := strip_dropWhile_eq_nil_iff.mpr ⟨braces, blanks, hrest⟩
    simp only [splitBlock?_eq_some trailing, hread, hstrip, ite_true]

/-! ## Attributes that a tag gains -/

/-- The value of an attribute that a block sets: a class behind those that are there, anything else
in place of what is there. -/
def gainedValue (attrs : Attributes) (name value : String) : Value :=
  .text (if name = "class" then
    ((attrs.get? name).map fun old => old.toText ++ " " ++ value).getD value else value)

/-- The result has exactly the attributes of a block added. -/
structure Gains (attrs : Attributes) (attributes : List (String × String)) (result : Attributes) :
    Prop where
  gained : ∀ name value, (name, value) ∈ attributes →
    result.get? name = some (gainedValue attrs name value)
  kept : ∀ name, name ∉ attributes.map Prod.fst → result.get? name = attrs.get? name
  names : result.names = attrs.names ++ (attributes.map Prod.fst).filter (· ∉ attrs.names)

theorem addAttributes_cons (attrs : Attributes) (name value : String)
    (attributes : List (String × String)) :
    addAttributes attrs ((name, value) :: attributes) =
      addAttributes (attrs.set name (gainedValue attrs name value)) attributes := by
  have hstep : (if name = "class" then attrs.addWord name value else attrs.set name (.text value)) =
      attrs.set name (gainedValue attrs name value) := by
    rw [gainedValue]
    split
    · rw [Attributes.addWord_eq_set]
    · rfl
  rw [addAttributes, addAttributes, List.foldl_cons, ← hstep]

/-- Attributes with different names are added without getting into each other's way. -/
theorem gains_addAttributes (attrs : Attributes) (h : (attributes.map Prod.fst).Nodup) :
    Gains attrs attributes (addAttributes attrs attributes) := by
  induction attributes generalizing attrs with
  | nil => exact ⟨nofun, fun _ _ => rfl, (List.append_nil _).symm⟩
  | cons pair rest ih =>
    obtain ⟨key, word⟩ := pair
    rw [List.map_cons, List.nodup_cons] at h
    rw [addAttributes_cons]
    have hrest := ih (attrs.set key (gainedValue attrs key word)) h.2
    refine ⟨fun name value hmem => ?_, fun name hname => ?_, ?_⟩
    · rcases List.mem_cons.mp hmem with heq | hmem
      · rw [Prod.mk.injEq] at heq
        obtain ⟨rfl, rfl⟩ := heq
        rw [hrest.kept name h.1, Attributes.get?_set]
      · have hne : name ≠ key := fun heq =>
          h.1 (List.mem_map.mpr ⟨(name, value), hmem, heq⟩)
        rw [hrest.gained name value hmem, gainedValue, Attributes.get?_set_of_ne _ _ _ hne,
          gainedValue]
    · rw [List.map_cons, List.mem_cons, not_or] at hname
      rw [hrest.kept name hname.2, Attributes.get?_set_of_ne _ _ _ hname.1]
    · rw [hrest.names, Attributes.names_set, List.map_cons]
      by_cases hkey : key ∈ attrs.names
      · rw [if_pos hkey, List.filter_cons_of_neg (by simpa using hkey)]
      · rw [if_neg hkey, List.filter_cons_of_pos (by simpa using hkey),
          List.append_cons attrs.names key (List.filter _ _)]
        refine congrArg (attrs.names ++ [key] ++ ·) (List.filter_congr fun name hmem => ?_)
        have hne : name ≠ key := fun heq => h.1 (heq ▸ hmem)
        simp only [List.mem_append, List.mem_singleton, hne, or_false]

/-- A class is put behind the class that is there, another value in place of the old one. -/
example :
    addAttributes [("class", .text "long"), ("lang", .text "de")]
        [("id", "install"), ("lang", "en"), ("class", "wide")] =
      [("class", .text "long wide"), ("lang", .text "en"), ("id", .text "install")] := by
  decide

/-! ## Headings and the tokens behind them -/

/-- What lifting does to one token. -/
def liftToken (read? : AttributeReader) (behindHeading : Bool) (token : Token)
    (next : Option Token) : Token :=
  { token with
    content := if behindHeading then liftedContent read? token.content else token.content
    attrs := if token.kind = .headingOpen then liftedAttributes read? token next else token.attrs }

theorem liftToken_heading {heading : Token} (h : heading.kind = .headingOpen)
    (next : Option Token) : liftToken read? false heading next =
      { heading with attrs := liftedAttributes read? heading next } := by
  rw [liftToken, if_neg Bool.false_ne_true, if_pos h]

theorem liftToken_behind {token : Token} (h : token.kind ≠ .headingOpen) (next : Option Token) :
    liftToken read? true token next =
      { token with content := liftedContent read? token.content } := by
  rw [liftToken, if_pos rfl, if_neg h]

theorem liftToken_eq_self {token : Token} (h : token.kind ≠ .headingOpen) (next : Option Token) :
    liftToken read? false token next = token := by
  rw [liftToken, if_neg Bool.false_ne_true, if_neg h]
  -- A token may hold tokens, so it equals the record of its fields only once it is taken apart.
  cases token
  rfl

/-- Whether the opening tag of a heading stands in front of a position. -/
def isBehindHeading (behindHeading : Bool) (tokens : List Token) : Nat → Bool
  | 0 => behindHeading
  | i + 1 => tokens[i]?.any (·.kind = .headingOpen)

/-- Lifting acts on each token by itself, with its neighbours as they were. -/
theorem getElem?_liftFrom (behindHeading : Bool) (tokens : List Token) (i : Nat) :
    (liftFrom read? behindHeading tokens)[i]? =
      tokens[i]?.map fun token =>
        liftToken read? (isBehindHeading behindHeading tokens i) token tokens[i + 1]? := by
  induction tokens generalizing behindHeading i with
  | nil => rfl
  | cons token rest ih =>
    rw [liftFrom]
    cases i with
    | zero =>
      rw [List.getElem?_cons_zero, List.getElem?_cons_zero, List.getElem?_cons_succ,
        ← List.head?_eq_getElem?, Option.map_some, liftToken, isBehindHeading]
      simp
    | succ i =>
      simp only [List.getElem?_cons_succ, ih]
      cases i <;> rfl

theorem length_liftFrom (behindHeading : Bool) (tokens : List Token) :
    (liftFrom read? behindHeading tokens).length = tokens.length := by
  induction tokens generalizing behindHeading with
  | nil => rfl
  | cons token rest ih => rw [liftFrom, List.length_cons, ih, List.length_cons]

/-- No heading stands right behind the opening tag of another one. -/
theorem HeadingsHaveText.isBehindHeading_eq_false {tokens : List Token}
    (h : HeadingsHaveText tokens) {i : Nat} {heading : Token} (hi : tokens[i]? = some heading)
    (hheading : heading.kind = .headingOpen) : isBehindHeading false tokens i = false := by
  cases i with
  | zero => rfl
  | succ i =>
    rw [isBehindHeading, Option.any_eq_false]
    intro token htoken
    refine decide_eq_false fun hopen => ?_
    obtain ⟨next, hnext, hinline⟩ := h i token htoken hopen
    rw [← Option.some.inj (hi.symm.trans hnext)] at hinline
    exact nomatch hheading.symm.trans hinline

/-- What becomes of the opening tag of a heading and the token behind it: the block leaves the text
and the tag gains its attributes, or there is no block to lift and both stay as they are. -/
inductive Lifts (read? : AttributeReader) (heading next : Token) : Token → Token → Prop
  | lifted {attrs : Attributes} {attributes : List (String × String)}
      (trailing : TrailingBlock next.content.toList)
      (accepts : read?.Accepts trailing.block attributes)
      (gains : Gains heading.attrs attributes attrs) :
      Lifts read? heading next { heading with attrs }
        { next with content := .ofList trailing.text }
  | kept
      (refused : ∀ (trailing : TrailingBlock next.content.toList) attributes,
        ¬ read?.Accepts trailing.block attributes) :
      Lifts read? heading next heading next

/-- A heading and its text are lifted together, since both look at the same block. -/
theorem lifts_liftToken (hread : read?.IsMapping) {heading next : Token}
    (hheading : heading.kind = .headingOpen) (hnext : next.kind ≠ .headingOpen)
    (after : Option Token) :
    Lifts read? heading next (liftToken read? false heading (some next))
      (liftToken read? true next after) := by
  rw [liftToken_heading hheading, liftToken_behind hnext, liftedAttributes, liftedContent,
    Option.bind_some]
  cases hlift : liftBlock? read? next.content with
  | none =>
    have hkept : Lifts read? heading next heading next := by
      refine .kept fun trailing attributes haccepts => ?_
      have hsome := liftBlock?_eq_some_iff.mpr ⟨trailing, rfl, haccepts⟩
      exact nomatch hlift.symm.trans hsome
    cases heading
    cases next
    exact hkept
  | some result =>
    obtain ⟨text, attributes⟩ := result
    obtain ⟨trailing, rfl, haccepts⟩ := liftBlock?_eq_some_iff.mp hlift
    have ⟨n, _, _, hblock, _⟩ := haccepts
    exact .lifted trailing haccepts (gains_addAttributes heading.attrs (hread _ _ _ hblock))

/-- Lifting is all or nothing, whatever reads the blocks. Tokens that are neither the opening tag of
a heading nor right behind one stay as they are; of a heading and the token behind it, both are
lifted or neither is. -/
theorem liftAttributes_allOrNothing (hread : read?.IsMapping) {tokens : List Token}
    (htext : HeadingsHaveText tokens) :
    (liftAttributes read? tokens).length = tokens.length ∧
      (∀ i token, tokens[i]? = some token → token.kind ≠ .headingOpen →
        isBehindHeading false tokens i = false → (liftAttributes read? tokens)[i]? = some token) ∧
      ∀ i heading next, tokens[i]? = some heading → heading.kind = .headingOpen →
        tokens[i + 1]? = some next →
        ∃ heading' next', (liftAttributes read? tokens)[i]? = some heading' ∧
          (liftAttributes read? tokens)[i + 1]? = some next' ∧
          Lifts read? heading next heading' next' := by
  refine ⟨length_liftFrom false tokens, fun i token htoken hkind hbehind => ?_,
    fun i heading next hi hheading hnext => ?_⟩
  · rw [liftAttributes, getElem?_liftFrom, htoken, hbehind, Option.map_some,
      liftToken_eq_self hkind]
  · have hbehind : isBehindHeading false tokens (i + 1) = true := by
      rw [isBehindHeading, hi, Option.any_some, decide_eq_true hheading]
    have hother : next.kind ≠ .headingOpen := by
      obtain ⟨text, hi', hinline⟩ := htext i heading hi hheading
      rw [← Option.some.inj (hnext.symm.trans hi')] at hinline
      exact fun hopen => nomatch hopen.symm.trans hinline
    refine ⟨_, _, ?_, ?_, lifts_liftToken hread hheading hother tokens[i + 2]?⟩
    · rw [liftAttributes, getElem?_liftFrom, hi, htext.isBehindHeading_eq_false hi hheading, hnext,
        Option.map_some]
    · rw [liftAttributes, getElem?_liftFrom, hnext, hbehind, Option.map_some]

/-- Of two headings of a document, the one whose block can be read is lifted; the braces of the
other one stay in its text. -/
theorem liftAttributes_allOrNothing_braces :
    let tokens := blocksTokens false
      [.heading 2 "##" "Setup \x7b#install .wide lang=en\x7d ", .heading 1 "#" "Use \x7bbraces\x7d"]
    let result := liftAttributes readAttributes? tokens
    AttributeReader.IsMapping readAttributes? ∧ HeadingsHaveText tokens ∧
      result.length = tokens.length ∧
      (∀ i heading next, tokens[i]? = some heading → heading.kind = .headingOpen →
        tokens[i + 1]? = some next →
        ∃ heading' next', result[i]? = some heading' ∧ result[i + 1]? = some next' ∧
          Lifts readAttributes? heading next heading' next') ∧
      result.map (fun token => (token.content, token.attrs)) =
        [("", [("id", .text "install"), ("lang", .text "en"), ("class", .text "wide")]),
          ("Setup", []), ("", []), ("", []), ("Use \x7bbraces\x7d", []), ("", [])] := by
  intro tokens result
  have htext : HeadingsHaveText tokens := headingsHaveText_blocksTokens false _
  have hlifted := liftAttributes_allOrNothing readAttributes?_isMapping htext
  exact ⟨readAttributes?_isMapping, htext, hlifted.1, hlifted.2.2, by decide⟩

end Folio.Markdown
