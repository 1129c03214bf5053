import Folio.Text.Blank
import Folio.Text.Search
import Mathlib.Data.List.DropRight

/-!
# Pieces of texts

Splitting at a mark and joining with it are core's operations, so a text is recovered from its
pieces, and pieces without the mark from their text. Cutting at the first mark, dropping a suffix
and searching are characterized by how the text is put together.
-/

namespace Folio.Text

/-- Splitting at a mark is core's splitting. -/
theorem splitAt_eq_splitOn (mark : Char) (cs : List Char) : splitAt mark cs = cs.splitOn mark := by
  induction cs with
  | nil => rfl
  | cons c cs ih =>
    rw [splitAt, ih, List.splitOn_cons_eq_if_modifyHead]
    by_cases h : c = mark
    · simp only [h, beq_self_eq_true, ite_true]
    · simp only [h, beq_iff_eq, ite_false]
      cases hs : cs.splitOn mark with
      | nil => exact absurd hs (List.splitOn_ne_nil mark cs)
      | cons piece pieces => rfl

/-- Joining is core's joining. -/
theorem joinWith_eq_intercalate (mark : List Char) (pieces : List (List Char)) :
    joinWith mark pieces = mark.intercalate pieces := by
  induction pieces using joinWith.induct with
  | case1 => rfl
  | case2 piece => rw [joinWith, List.intercalate_singleton]
  | case3 piece next pieces ih => rw [joinWith, ih, List.intercalate_cons_cons]

/-- A text is its pieces joined. -/
theorem joinWith_splitAt (mark : Char) (cs : List Char) :
    joinWith [mark] (splitAt mark cs) = cs := by
  rw [joinWith_eq_intercalate, splitAt_eq_splitOn, List.intercalate_splitOn]

/-- Pieces without the mark are recovered from their text. -/
theorem splitAt_joinWith {mark : Char} {pieces : List (List Char)} (hne : pieces ≠ [])
    (h : ∀ piece ∈ pieces, mark ∉ piece) : splitAt mark (joinWith [mark] pieces) = pieces := by
  rw [joinWith_eq_intercalate, splitAt_eq_splitOn, List.splitOn_intercalate mark h hne]

/-- A text without the mark is one piece. -/
theorem splitAt_of_not_mem {mark : Char} {cs : List Char} (h : mark ∉ cs) :
    splitAt mark cs = [cs] := by
  rw [splitAt_eq_splitOn, List.splitOn_eq_singleton h]

/-- A mark between two texts separates their pieces. -/
theorem splitAt_append_mark (mark : Char) (s t : List Char) :
    splitAt mark (s ++ mark :: t) = splitAt mark s ++ splitAt mark t := by
  simp only [splitAt_eq_splitOn, List.splitOn_append_cons_self]

theorem splitAt_ne_nil (mark : Char) (cs : List Char) : splitAt mark cs ≠ [] := by
  rw [splitAt_eq_splitOn]
  exact List.splitOn_ne_nil mark cs

/-- No piece holds the mark. -/
theorem not_mem_of_mem_splitAt {mark : Char} {cs piece : List Char}
    (h : piece ∈ splitAt mark cs) : mark ∉ piece := by
  induction cs generalizing piece with
  | nil =>
    rw [splitAt, List.mem_singleton] at h
    simp only [h, List.not_mem_nil, not_false_iff]
  | cons c cs ih =>
    rw [splitAt] at h
    by_cases hc : c = mark
    · rw [if_pos hc] at h
      rcases List.mem_cons.mp h with rfl | h
      · exact List.not_mem_nil
      · exact ih h
    · rw [if_neg hc] at h
      cases hs : splitAt mark cs with
      | nil => exact absurd hs (splitAt_ne_nil mark cs)
      | cons first rest =>
        rw [hs] at h ih
        rcases List.mem_cons.mp h with rfl | h
        · exact List.not_mem_cons_of_ne_of_not_mem (Ne.symm hc) (ih (List.mem_cons_self ..))
        · exact ih (List.mem_cons_of_mem _ h)

/-- A text that is put behind another one lengthens its last piece by its own first one. -/
theorem splitAt_append_cons {mark : Char} {ext first : List Char} {rest : List (List Char)}
    (h : splitAt mark ext = first :: rest) (cs : List Char) :
    splitAt mark (cs ++ ext) =
      (splitAt mark cs).dropLast ++ ((splitAt mark cs).getLastD [] ++ first) :: rest := by
  induction cs with
  | nil => exact h
  | cons c cs ih =>
    rw [List.cons_append, splitAt, splitAt, ih]
    cases hs : splitAt mark cs with
    | nil => exact absurd hs (splitAt_ne_nil mark cs)
    | cons piece pieces =>
      by_cases hc : c = mark
      · simp only [hc, ite_true, List.dropLast_cons_cons, List.getLastD_cons, List.cons_append]
      · cases pieces <;> simp only [hc, ite_false, List.dropLast_singleton, List.dropLast_cons_cons,
          List.getLastD_cons, List.getLastD_nil, List.nil_append, List.cons_append]

/-- The pieces are those in front of the last one and the last one. -/
theorem dropLast_append_lastPiece (mark : Char) (cs : List Char) :
    (splitAt mark cs).dropLast ++ [(splitAt mark cs).getLastD []] = splitAt mark cs := by
  rw [List.getLastD_eq_getLast?, List.getLast?_eq_some_getLast (splitAt_ne_nil mark cs),
    Option.getD_some, List.dropLast_append_getLast]

/-- A text is known by its pieces. -/
theorem eq_of_splitAt_eq {mark : Char} {s t : List Char} (h : splitAt mark s = splitAt mark t) :
    s = t := by
  rw [← joinWith_splitAt mark s, h, joinWith_splitAt]

/-- What is put behind the last piece stands behind the joined text. -/
theorem joinWith_concat_append (mark : List Char) (pieces : List (List Char))
    (last ext : List Char) :
    joinWith mark (pieces ++ [last ++ ext]) = joinWith mark (pieces ++ [last]) ++ ext := by
  induction pieces with
  | nil => rfl
  | cons piece pieces ih =>
    cases pieces with
    | nil => simp only [List.nil_append, List.cons_append, joinWith, List.append_assoc]
    | cons next pieces =>
      simp only [List.cons_append, joinWith, List.append_assoc] at ih ⊢
      rw [ih]

/-- One more piece is joined behind a mark. -/
theorem joinWith_concat {pieces : List (List Char)} (h : pieces ≠ []) (mark last : List Char) :
    joinWith mark (pieces ++ [last]) = joinWith mark pieces ++ mark ++ last := by
  induction pieces with
  | nil => exact absurd rfl h
  | cons piece pieces ih =>
    cases pieces with
    | nil => rfl
    | cons next pieces =>
      simp only [List.cons_append, joinWith, List.append_assoc] at ih ⊢
      rw [ih (List.cons_ne_nil next pieces)]

/-- Without the last piece a joined text ends early. -/
theorem joinWith_isPrefix_concat (mark : List Char) (pieces : List (List Char))
    (last : List Char) : joinWith mark pieces <+: joinWith mark (pieces ++ [last]) := by
  by_cases h : pieces = []
  · rw [h]
    exact List.nil_prefix
  · rw [joinWith_concat h, List.append_assoc]
    exact List.prefix_append _ _

/-- A text ends with the mark exactly if there is an empty piece behind another one at its end. -/
theorem getLast?_eq_mark_iff {mark : Char} {cs : List Char} :
    cs.getLast? = some mark ↔ ∃ pieces, pieces ≠ [] ∧ splitAt mark cs = pieces ++ [[]] := by
  constructor
  · intro h
    obtain ⟨front, rfl⟩ := List.getLast?_eq_some_iff.mp h
    exact ⟨splitAt mark front, splitAt_ne_nil mark front, splitAt_append_mark mark front []⟩
  · rintro ⟨pieces, hne, h⟩
    rw [← joinWith_splitAt mark cs, h, joinWith_concat hne, List.append_nil, List.getLast?_concat]

/-- The characters of a joined text are those of the mark and of the pieces. -/
theorem mem_joinWith {mark : List Char} {pieces : List (List Char)} {c : Char}
    (h : c ∈ joinWith mark pieces) : c ∈ mark ∨ ∃ piece ∈ pieces, c ∈ piece := by
  induction pieces using joinWith.induct with
  | case1 => exact absurd h List.not_mem_nil
  | case2 piece => exact Or.inr ⟨piece, List.mem_cons_self .., h⟩
  | case3 piece next pieces ih =>
    simp only [joinWith, List.append_assoc, List.mem_append] at h
    rcases h with h | h | h
    · exact Or.inr ⟨piece, List.mem_cons_self .., h⟩
    · exact Or.inl h
    · rcases ih h with h | ⟨other, hmem, h⟩
      · exact Or.inl h
      · exact Or.inr ⟨other, List.mem_cons_of_mem _ hmem, h⟩

theorem not_mem_joinWith {mark : List Char} {pieces : List (List Char)} {c : Char}
    (hmark : c ∉ mark) (h : ∀ piece ∈ pieces, c ∉ piece) : c ∉ joinWith mark pieces := by
  intro hc
  rcases mem_joinWith hc with hc | ⟨piece, hp, hc⟩
  · exact hmark hc
  · exact h piece hp hc

/-- The characters of a piece are characters of the joined text. -/
theorem mem_joinWith_of_mem {mark : List Char} {pieces : List (List Char)} {piece : List Char}
    (h : piece ∈ pieces) {c : Char} (hc : c ∈ piece) : c ∈ joinWith mark pieces := by
  induction pieces using joinWith.induct with
  | case1 => exact absurd h List.not_mem_nil
  | case2 only => rwa [List.mem_singleton.mp h] at hc
  | case3 first next pieces ih =>
    rw [joinWith]
    rcases List.mem_cons.mp h with rfl | h
    · exact List.mem_append_left _ (List.mem_append_left _ hc)
    · exact List.mem_append_right _ (ih h)

/-- The characters of a piece are those of the text. -/
theorem mem_of_mem_splitAt {mark c : Char} {cs piece : List Char}
    (h : piece ∈ splitAt mark cs) (hc : c ∈ piece) : c ∈ cs := by
  rw [← joinWith_splitAt mark cs]
  exact mem_joinWith_of_mem h hc

/-- Non-empty pieces are joined to nothing only if there are none. -/
theorem joinWith_ne_nil {mark : List Char} {pieces : List (List Char)} (hne : pieces ≠ [])
    (h : ∀ piece ∈ pieces, piece ≠ []) : joinWith mark pieces ≠ [] := by
  cases pieces using joinWith.induct with
  | case1 => exact absurd rfl hne
  | case2 piece => exact h piece (List.mem_cons_self ..)
  | case3 piece next pieces =>
    intro he
    simp only [joinWith, List.append_eq_nil_iff] at he
    exact h piece (List.mem_cons_self ..) he.1.1

/-- Cutting either passes a text without the mark, or parts it at the first mark. -/
theorem cutAt_cases (mark : Char) (cs : List Char) :
    (mark ∉ cs ∧ cutAt mark cs = (cs, none)) ∨
      ∃ before behind, cs = before ++ mark :: behind ∧ mark ∉ before ∧
        cutAt mark cs = (before, some behind) := by
  induction cs with
  | nil => exact Or.inl ⟨List.not_mem_nil, rfl⟩
  | cons c cs ih =>
    by_cases hc : c = mark
    · subst hc
      exact Or.inr ⟨[], cs, rfl, List.not_mem_nil, if_pos rfl⟩
    · rw [cutAt, if_neg hc]
      rcases ih with ⟨hmem, hcut⟩ | ⟨before, behind, rfl, hmem, hcut⟩
      · exact Or.inl ⟨List.not_mem_cons_of_ne_of_not_mem (Ne.symm hc) hmem, by rw [hcut]⟩
      · exact Or.inr ⟨c :: before, behind, rfl,
          List.not_mem_cons_of_ne_of_not_mem (Ne.symm hc) hmem, by rw [hcut]⟩

/-- What stands in front of the first mark holds no mark. -/
theorem not_mem_cutAt (mark : Char) (cs : List Char) : mark ∉ (cutAt mark cs).1 := by
  rcases cutAt_cases mark cs with ⟨h, hcut⟩ | ⟨before, behind, -, h, hcut⟩
  · rw [hcut]
    exact h
  · rw [hcut]
    exact h

theorem cutAt_of_not_mem {mark : Char} {cs : List Char} (h : mark ∉ cs) :
    cutAt mark cs = (cs, none) := by
  rcases cutAt_cases mark cs with ⟨_, hcut⟩ | ⟨before, behind, rfl, _, _⟩
  · exact hcut
  · exact absurd (List.mem_append_right _ (List.mem_cons_self ..)) h

/-- Cutting parts a text at the mark that follows a text without it. -/
theorem cutAt_append_mark {mark : Char} {before : List Char} (h : mark ∉ before)
    (behind : List Char) : cutAt mark (before ++ mark :: behind) = (before, some behind) := by
  induction before with
  | nil => exact if_pos rfl
  | cons c before ih =>
    simp only [List.mem_cons, not_or] at h
    rw [List.cons_append, cutAt, if_neg (Ne.symm h.1), ih h.2]

/-- A text parts at its last mark in one way only. -/
theorem append_mark_inj {mark : Char} {s s' t t' : List Char} (ht : mark ∉ t) (ht' : mark ∉ t') :
    s ++ mark :: t = s' ++ mark :: t' ↔ s = s' ∧ t = t' := by
  constructor
  · intro h
    have hreverse := congrArg (cutAt mark ∘ List.reverse) h
    simp only [Function.comp_apply, List.reverse_append, List.reverse_cons, List.append_assoc,
      List.singleton_append] at hreverse
    rw [cutAt_append_mark (List.mem_reverse.not.mpr ht),
      cutAt_append_mark (List.mem_reverse.not.mpr ht'), Prod.mk.injEq,
      Option.some.injEq] at hreverse
    exact ⟨List.reverse_inj.mp hreverse.2, List.reverse_inj.mp hreverse.1⟩
  · rintro ⟨rfl, rfl⟩
    rfl

/-- A suffix can be dropped. -/
theorem dropSuffix?_append (word stem : List Char) :
    dropSuffix? word (stem ++ word) = some stem := by
  have hsuffix : word.isSuffixOf (stem ++ word) = true :=
    List.isSuffixOf_iff_suffix.mpr (List.suffix_append stem word)
  rw [dropSuffix?, if_pos hsuffix, List.length_append, Nat.add_sub_cancel, List.take_left]

theorem dropSuffix_append (word stem : List Char) : dropSuffix word (stem ++ word) = stem := by
  rw [dropSuffix, dropSuffix?_append, Option.getD_some]

/-- Nothing is dropped from a text that ends otherwise. -/
theorem dropSuffix?_eq_none {word cs : List Char} (h : ¬ word <:+ cs) :
    dropSuffix? word cs = none :=
  if_neg fun hs => h (List.isSuffixOf_iff_suffix.mp hs)

theorem dropSuffix_eq_self {word cs : List Char} (h : ¬ word <:+ cs) : dropSuffix word cs = cs := by
  rw [dropSuffix, dropSuffix?_eq_none h, Option.getD_none]

/-- Searching finds a word exactly where the text has it inside. -/
theorem contains_iff_infix {word cs : List Char} : contains word cs = true ↔ word <:+: cs := by
  induction cs with
  | nil => rw [contains, List.isEmpty_iff, List.infix_nil]
  | cons c cs ih =>
    rw [contains, Bool.or_eq_true, List.isPrefixOf_iff_prefix, ih, List.infix_cons_iff]

/-- A word with a character that the text lacks is replaced nowhere. -/
theorem replaceAll_of_not_mem {word cs : List Char} {c : Char} (hword : c ∈ word) (h : c ∉ cs)
    (new : List Char) : replaceAll word new cs = cs := by
  induction cs with
  | nil => rfl
  | cons d cs ih =>
    have hprefix : word.isPrefixOf (d :: cs) = false :=
      Bool.eq_false_iff.mpr fun hp => h ((List.isPrefixOf_iff_prefix.mp hp).subset hword)
    rw [replaceAll_cons hprefix, ih (List.not_mem_of_not_mem_cons h)]

theorem isPrefixOf_cons_of_ne {c d : Char} (h : c ≠ d) (s t : List Char) :
    (c :: s).isPrefixOf (d :: t) = false := by
  rw [List.isPrefixOf_cons_cons, beq_eq_false_iff_ne.mpr h, Bool.false_and]

/-- Where a text lacks the first character of a word, no occurrence of the word begins. -/
theorem replaceAll_append_of_not_mem {word s : List Char} {mark : Char}
    (hword : word.head? = some mark) (h : mark ∉ s) (new t : List Char) :
    replaceAll word new (s ++ t) = s ++ replaceAll word new t := by
  obtain ⟨rest, rfl⟩ := List.head?_eq_some_iff.mp hword
  induction s with
  | nil => rfl
  | cons c s ih =>
    rw [List.mem_cons, not_or] at h
    rw [List.cons_append, replaceAll_cons (isPrefixOf_cons_of_ne h.1 rest _), ih h.2,
      List.cons_append]

/-- A word that ends with a mark is replaced where the text has its first mark. -/
theorem replaceAll_first {body front : List Char} {mark : Char} (hbody : mark ∉ body)
    (hfront : mark ∉ front) (new rest : List Char) :
    replaceAll (body ++ [mark]) new (front ++ (body ++ [mark]) ++ rest) =
      front ++ new ++ replaceAll (body ++ [mark]) new rest := by
  induction front with
  | nil => exact replaceAll_append (List.append_ne_nil_of_right_ne_nil _ (List.cons_ne_nil _ _)) _ _
  | cons c front ih =>
    simp only [List.mem_cons, not_or] at hfront
    -- An occurrence at the front would put the first mark at two places.
    have hfirst : mark ∉ c :: front ++ body := by
      simp only [List.cons_append, List.mem_cons, List.mem_append, not_or]
      exact ⟨hfront.1, hfront.2, hbody⟩
    have hprefix :
        (body ++ [mark]).isPrefixOf (c :: (front ++ (body ++ [mark]) ++ rest)) = false := by
      refine Bool.eq_false_iff.mpr fun hp => ?_
      obtain ⟨behind, hb⟩ := List.isPrefixOf_iff_prefix.mp hp
      have hcut : body = c :: front ++ body := by
        have hl := cutAt_append_mark hbody behind
        have hr := cutAt_append_mark hfirst rest
        simp only [List.append_assoc, List.cons_append, List.nil_append] at hb hl hr
        rw [hb, hr] at hl
        exact (congrArg Prod.fst hl).symm
      have hlength := congrArg List.length hcut
      simp only [List.cons_append, List.length_cons, List.length_append] at hlength
      omega
    rw [List.cons_append, List.cons_append, replaceAll_cons hprefix, ih hfront.2]
    rfl

/-- Replacing writes characters of the new word and of the text only. -/
theorem mem_of_mem_replaceAll {word new cs : List Char} {c : Char}
    (h : c ∈ replaceAll word new cs) : c ∈ new ∨ c ∈ cs := by
  unfold replaceAll at h
  generalize 0 = skip at h
  induction cs generalizing skip with
  | nil => cases skip <;> exact Or.inr h
  | cons d cs ih =>
    cases skip with
    | succ skip => exact (ih skip h).imp_right (List.mem_cons_of_mem d)
    | zero =>
      rw [replaceFrom] at h
      split at h
      · rcases List.mem_append.mp h with h | h
        · exact Or.inl h
        · exact (ih _ h).imp_right (List.mem_cons_of_mem d)
      · rcases List.mem_cons.mp h with rfl | h
        · exact Or.inr (List.mem_cons_self ..)
        · exact (ih _ h).imp_right (List.mem_cons_of_mem d)

/-- A function that changes no element of a list keeps the list. -/
theorem map_eq_self {α : Type} {f : α → α} {as : List α} (h : ∀ a ∈ as, f a = a) : as.map f = as :=
  (List.map_congr_left h).trans (List.map_id' as)

/-- Writing one character for another keeps a text without it. -/
theorem map_ite_eq_self {old new : Char} {cs : List Char} (h : old ∉ cs) :
    (cs.map fun c => if c = old then new else c) = cs := by
  apply map_eq_self
  intro c hc
  have hne : c ≠ old := fun he => h (he ▸ hc)
  exact if_neg hne

/-- Writing one character for another adds the new one and removes the old one. -/
theorem mem_map_ite {old new c : Char} {cs : List Char}
    (h : c ∈ cs.map fun c => if c = old then new else c) : c = new ∨ c ∈ cs ∧ c ≠ old := by
  obtain ⟨d, hd, rfl⟩ := List.mem_map.mp h
  by_cases hold : d = old
  · exact Or.inl (if_pos hold)
  · rw [if_neg hold]
    exact Or.inr ⟨hd, hold⟩

/-- What is left in front of a suffix is made of the text's characters. -/
theorem dropSuffix_isPrefix (word cs : List Char) : dropSuffix word cs <+: cs := by
  by_cases h : word <:+ cs
  · obtain ⟨stem, rfl⟩ := h
    rw [dropSuffix_append]
    exact List.prefix_append stem word
  · have hself : dropSuffix word cs = cs := dropSuffix_eq_self h
    exact ⟨[], by rw [hself, List.append_nil]⟩

/-- A mark that a word does not hold keeps what stands in front of it out of the word. -/
theorem suffix_of_suffix_append_mark {word s t : List Char} {mark : Char} (hword : mark ∉ word)
    (h : word <:+ s ++ mark :: t) : word <:+ t := by
  rcases List.suffix_or_suffix_of_suffix h (List.suffix_append s (mark :: t)) with hs | hs
  · rcases List.suffix_cons_iff.mp hs with rfl | hs
    · exact absurd List.mem_cons_self hword
    · exact hs
  · exact absurd (hs.subset List.mem_cons_self) hword

/-- So a word is dropped behind the mark only. -/
theorem dropSuffix_append_mark {word : List Char} {mark : Char} (hword : mark ∉ word)
    (s t : List Char) : dropSuffix word (s ++ mark :: t) = s ++ mark :: dropSuffix word t := by
  by_cases h : word <:+ t
  · obtain ⟨stem, rfl⟩ := h
    have hassoc : s ++ mark :: (stem ++ word) = (s ++ mark :: stem) ++ word := by
      rw [List.append_assoc, List.cons_append]
    rw [hassoc, dropSuffix_append, dropSuffix_append]
  · rw [dropSuffix_eq_self h,
      dropSuffix_eq_self fun hs => h (suffix_of_suffix_append_mark hword hs)]

/-- Dropping a word loses none of the characters that it does not hold. -/
theorem count_dropSuffix {word : List Char} {c : Char} (h : c ∉ word) (cs : List Char) :
    (dropSuffix word cs).count c = cs.count c := by
  by_cases hs : word <:+ cs
  · obtain ⟨stem, rfl⟩ := hs
    rw [dropSuffix_append, List.count_append, List.count_eq_zero.mpr h, Nat.add_zero]
  · rw [dropSuffix_eq_self hs]

theorem dropEndWhile_isPrefix (p : Char → Bool) (cs : List Char) : dropEndWhile p cs <+: cs :=
  List.rdropWhile_prefix p cs

/-- Nothing is dropped from a text whose last character fails the test. -/
theorem dropEndWhile_eq_self {p : Char → Bool} {cs : List Char}
    (h : ∀ c, cs.getLast? = some c → p c = false) : dropEndWhile p cs = cs := by
  apply List.rdropWhile_eq_self_iff.mpr
  intro hne
  rw [h _ (List.getLast?_eq_some_getLast hne)]
  exact Bool.false_ne_true

/-- No mark is dropped from the end of a text that ends otherwise. -/
theorem dropEndWhile_mark_eq_self {mark : Char} {cs : List Char} (h : cs.getLast? ≠ some mark) :
    dropEndWhile (· = mark) cs = cs :=
  dropEndWhile_eq_self fun _ hc => decide_eq_false fun he => h (he ▸ hc)

/-- Nor from the front of a text that begins otherwise. -/
theorem dropWhile_mark_eq_self {mark : Char} {cs : List Char} (h : cs.head? ≠ some mark) :
    cs.dropWhile (· = mark) = cs := by
  cases cs with
  | nil => rfl
  | cons c cs =>
    have hc : ¬ decide (c = mark) = true := fun he => h (congrArg some (of_decide_eq_true he))
    rw [List.dropWhile_cons, if_neg hc]

/-- All of a text at the end that satisfies the test is dropped. -/
theorem dropEndWhile_append {p : Char → Bool} {t : List Char} (h : ∀ c ∈ t, p c = true)
    (s : List Char) : dropEndWhile p (s ++ t) = dropEndWhile p s := by
  rw [dropEndWhile, List.reverse_append, List.dropWhile_append_of_pos, dropEndWhile]
  simpa only [List.mem_reverse] using h

/-- What is dropped from the end satisfies the test. -/
theorem exists_dropEndWhile_append (p : Char → Bool) (cs : List Char) :
    ∃ t, cs = dropEndWhile p cs ++ t ∧ ∀ c ∈ t, p c = true :=
  ⟨cs.rtakeWhile p, List.rdropWhile_append_rtakeWhile.symm, fun _ => List.mem_rtakeWhile_imp⟩

/-- The last character that is left fails the test. -/
theorem eq_false_of_getLast?_dropEndWhile {p : Char → Bool} {cs : List Char} {c : Char}
    (h : (dropEndWhile p cs).getLast? = some c) : p c = false := by
  have hne : dropEndWhile p cs ≠ [] := fun hnil => by
    rw [hnil] at h
    exact nomatch h
  rw [List.getLast?_eq_some_getLast hne, Option.some.injEq] at h
  exact h ▸ eq_false_of_ne_true (List.rdropWhile_last_not p cs hne)

/-- Stripping leaves nothing of blanks only. -/
theorem strip_eq_nil_iff {cs : List Char} : strip cs = [] ↔ ∀ c ∈ cs, isBlank c = true := by
  rw [← List.dropWhile_eq_nil_iff]
  constructor
  · intro h
    by_contra hne
    have hall := List.rdropWhile_eq_nil_iff.mp h _ (List.head_mem hne)
    rw [List.head_dropWhile_not isBlank hne] at hall
    exact Bool.false_ne_true hall
  · intro h
    rw [strip, h]
    rfl

end Folio.Text
