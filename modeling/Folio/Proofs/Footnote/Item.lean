import Folio.Footnote.Appendix
import Mathlib.Data.List.Basic

/-!
# The items of the footnote list

The links back of a footnote are put into its item one after the other, and each looks at where the
item ends by then. A link closes no paragraph, so all of them come to stand at one place in their
order: in front of the last token of the body if that closes a paragraph, else behind the body.
-/

namespace Folio.Footnote

/-- Put tokens in front of the last one if it closes a paragraph, else behind all. -/
def appendInside (body extra : List Token) : List Token :=
  match body.getLast? with
  | some last =>
    if last.kind = .paragraphClose then body.dropLast ++ extra ++ [last] else body ++ extra
  | none => extra

section Place

variable {tokens body extra : List Token} {token last : Token}

/-- Behind a list that ends with the close of a paragraph, a token is put in front of that. -/
theorem insertInside_of_close (h : last.kind = .paragraphClose) :
    insertInside (tokens ++ [last]) token = tokens ++ [token] ++ [last] := by
  unfold insertInside
  simp only [List.getLast?_concat, if_pos h, List.dropLast_concat, List.append_assoc,
    List.cons_append, List.nil_append]

/-- Any other list has the token put behind it. -/
theorem insertInside_of_not_close (h : ∀ last, tokens.getLast? = some last →
    last.kind ≠ .paragraphClose) : insertInside tokens token = tokens ++ [token] := by
  unfold insertInside
  split
  · rename_i last hlast
    exact if_neg (h last hlast)
  · rename_i hnone
    rw [List.getLast?_eq_none_iff.mp hnone, List.nil_append]

/-- Tokens put in one after the other come to stand in front of the close of a paragraph. -/
theorem foldl_insertInside_of_close (h : last.kind = .paragraphClose) (tokens extra : List Token) :
    extra.foldl insertInside (tokens ++ [last]) = tokens ++ extra ++ [last] := by
  induction extra generalizing tokens with
  | nil => simp only [List.foldl_nil, List.append_nil]
  | cons first extra ih =>
    rw [List.foldl_cons, insertInside_of_close h, ih]
    simp only [List.append_assoc, List.cons_append, List.nil_append]

/-- If none of them closes a paragraph, they come to stand behind any other list. -/
theorem foldl_insertInside_of_not_close
    (h : ∀ last, tokens.getLast? = some last → last.kind ≠ .paragraphClose)
    (hextra : ∀ token ∈ extra, token.kind ≠ .paragraphClose) :
    extra.foldl insertInside tokens = tokens ++ extra := by
  induction extra generalizing tokens with
  | nil => rw [List.foldl_nil, List.append_nil]
  | cons first extra ih =>
    have hfirst : ∀ last, (tokens ++ [first]).getLast? = some last →
        last.kind ≠ .paragraphClose := by
      intro last hlast
      rw [List.getLast?_concat] at hlast
      rw [← Option.some.inj hlast]
      exact hextra first List.mem_cons_self
    rw [List.foldl_cons, insertInside_of_not_close h,
      ih hfirst fun token ht => hextra token (List.mem_cons_of_mem _ ht), List.append_assoc]
    rfl

/-- Behind a token that closes no paragraph, tokens are put into a list at one place. -/
theorem foldl_insertInside {opening : Token} (hopening : opening.kind ≠ .paragraphClose)
    (hextra : ∀ token ∈ extra, token.kind ≠ .paragraphClose) (body : List Token) :
    extra.foldl insertInside (opening :: body) = opening :: appendInside body extra := by
  unfold appendInside
  rcases List.eq_nil_or_concat body with rfl | ⟨front, last, rfl⟩
  · exact foldl_insertInside_of_not_close
      (fun last hlast => Option.some.inj hlast ▸ hopening) hextra
  · rw [List.concat_eq_append, List.getLast?_concat]
    by_cases hlast : last.kind = .paragraphClose
    · simp only [if_pos hlast, List.dropLast_concat]
      exact foldl_insertInside_of_close hlast (opening :: front) extra
    · simp only [if_neg hlast]
      refine foldl_insertInside_of_not_close (fun other hother => ?_) hextra
      rw [← List.cons_append, List.getLast?_concat] at hother
      exact Option.some.inj hother ▸ hlast

theorem mem_appendInside : token ∈ appendInside body extra ↔ token ∈ body ∨ token ∈ extra := by
  unfold appendInside
  split
  · rename_i last hlast
    split
    · have hbody : token ∈ body ↔ token ∈ body.dropLast ∨ token = last := by
        conv_lhs => rw [← List.dropLast_append_getLast? last hlast]
        rw [List.mem_append, List.mem_singleton]
      rw [List.mem_append, List.mem_append, List.mem_singleton, hbody, or_right_comm]
    · exact List.mem_append
  · rename_i hnone
    rw [List.getLast?_eq_none_iff.mp hnone]
    simp

end Place

/-- A link back in full: it leads to the superscript of one reference, behind the prefix of the page
if there is one, and from the second on it shows the number of the reference. -/
theorem backlink_eq (pageId name : String) (occurrence : Nat) :
    backlink pageId name occurrence =
      { kind := .htmlBlock
        content :=
          " <a href=\"#" ++ (if pageId = "" then "" else pageId ++ "-") ++ "fr-" ++ name ++ "-" ++
            toString occurrence ++ "\">↩" ++ (if occurrence = 1 then "" else toString occurrence) ++
            "</a>" } := by
  rw [backlink, Token.html, anchorPrefix, referenceId]
  simp only [String.append_assoc]

/-- The links back of a footnote, in the order of the references. -/
def backlinks (pageId name : String) (count : Nat) : List Token :=
  (List.range' 1 count).map (backlink pageId name)

theorem mem_backlinks {pageId name : String} {count : Nat} {token : Token} :
    token ∈ backlinks pageId name count ↔
      ∃ occurrence, 1 ≤ occurrence ∧ occurrence ≤ count ∧
        backlink pageId name occurrence = token := by
  rw [backlinks, List.mem_map]
  refine exists_congr fun occurrence => ?_
  rw [List.mem_range'_1, and_assoc, Nat.add_comm 1, Nat.lt_succ_iff]

/-- An item is a pair of tags around the body of the footnote and the links back. -/
theorem itemTokens_eq (pageId : String) (usage : Usage) (definition : Definition) :
    itemTokens pageId usage definition =
      .html ("<li id=\"" ++ itemId definition.name ++ "\">") ::
        (appendInside definition.body (backlinks pageId definition.name usage.count) ++
          [.html "</li>\n"]) := by
  have hlinks : ∀ token ∈ backlinks pageId definition.name usage.count,
      token.kind ≠ .paragraphClose := by
    intro token htoken
    obtain ⟨occurrence, -, -, rfl⟩ := mem_backlinks.mp htoken
    exact nofun
  have hopening : (Token.html ("<li id=\"" ++ itemId definition.name ++ "\">")).kind ≠
      .paragraphClose := nofun
  rw [itemTokens, ← List.cons_append, ← foldl_insertInside hopening hlinks, backlinks]

end Folio.Footnote
