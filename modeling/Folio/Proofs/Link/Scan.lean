import Folio.Link.RawHtml
import Folio.Proofs.Text.Pieces

/-!
# Scanning for attributes

The scan for an attribute in a tag is read off the quotes of the tag: each quote either opens a
value of the attribute or is passed over. Between the tags that begin with the element's name
nothing is changed.
-/

namespace Folio.Link

open Folio.Text

/-- What the scan for an attribute looks for: its name with the opening quote. -/
def opener (key : List Char) : List Char := key ++ ['=', '\x22']

/-- The beginning of a tag of the element that goes on with a space, in front of attributes. -/
def tagStart (element : List Char) : List Char := '<' :: (element ++ [' '])

/-- An occurrence with text in front of it. -/
def AttributeMatch.behind (front : List Char) (found : AttributeMatch) : AttributeMatch :=
  { found with lead := front ++ found.lead }

section Find

variable {key front rest : List Char}

/-- A value is read up to the closing quote. -/
theorem quotedValue?_append {value : List Char} (hne : value ≠ []) (hquote : '\x22' ∉ value)
    (rest : List Char) : quotedValue? (value ++ '\x22' :: rest) = some value := by
  rw [quotedValue?, cutAt_append_mark hquote]
  cases value with
  | nil => exact absurd rfl hne
  | cons c value => rfl

/-- The quote of an attribute is the first one behind the place where its name begins. -/
theorem opener_prefix_iff (hkey : '\x22' ∉ key) (hfront : '\x22' ∉ front) :
    (opener key).isPrefixOf (front ++ '\x22' :: rest) = true ↔ front = key ++ ['='] := by
  have hname : '\x22' ∉ key ++ ['='] := by
    rw [List.mem_append, not_or]
    exact ⟨hkey, by decide⟩
  have hopener : ∀ behind, opener key ++ behind = (key ++ ['=']) ++ '\x22' :: behind := by
    intro behind
    rw [opener, List.append_assoc, List.append_assoc]
    rfl
  rw [List.isPrefixOf_iff_prefix]
  constructor
  · rintro ⟨behind, hbehind⟩
    have hcut := congrArg (fun text => (cutAt '\x22' text).1) hbehind
    simp only [hopener, cutAt_append_mark hname, cutAt_append_mark hfront] at hcut
    exact hcut.symm
  · rintro rfl
    exact ⟨rest, hopener rest⟩

/-- Within the tag a character is passed over, unless an attribute with a value begins there. -/
theorem findAttribute?_cons {word cs : List Char} {c : Char}
    (h : word.isPrefixOf (c :: cs) = true → quotedValue? ((c :: cs).drop word.length) = none)
    (hend : c ≠ '>') :
    findAttribute? word (c :: cs) = (findAttribute? word cs).map (.behind [c]) := by
  have hvalue : (if word.isPrefixOf (c :: cs) = true then
      quotedValue? ((c :: cs).drop word.length) else none) = none := by
    split
    · exact h ‹_›
    · rfl
  rw [findAttribute?]
  simp only [hvalue, if_neg hend]
  rfl

theorem AttributeMatch.map_behind_map (first second : List Char) (found? : Option AttributeMatch) :
    (found?.map (behind second)).map (behind first) = found?.map (behind (first ++ second)) := by
  cases found? with
  | none => rfl
  | some found => simp [behind]

/-- The scan passes a quote that does not open a value of the attribute. -/
theorem findAttribute?_pass (hkey : '\x22' ∉ key) (hquote : '\x22' ∉ front) (hend : '>' ∉ front)
    (h : key ++ ['='] <:+ front → quotedValue? rest = none) :
    findAttribute? (opener key) (front ++ '\x22' :: rest) =
      (findAttribute? (opener key) rest).map (.behind (front ++ ['\x22'])) := by
  induction front with
  | nil =>
    apply findAttribute?_cons
    · intro hprefix
      have hnil := (opener_prefix_iff hkey hquote).mp hprefix
      exact absurd hnil (List.append_ne_nil_of_right_ne_nil key (List.cons_ne_nil _ _)).symm
    · decide
  | cons c front ih =>
    rw [List.mem_cons, not_or] at hend
    -- An attribute that begins here has all of the front as its name, so no value follows it.
    have hfirst : (opener key).isPrefixOf (c :: (front ++ '\x22' :: rest)) = true →
        quotedValue? ((c :: (front ++ '\x22' :: rest)).drop (opener key).length) = none := by
      intro hprefix
      have hname : c :: front = key ++ ['='] := (opener_prefix_iff hkey hquote).mp hprefix
      have hlength : (opener key).length = (c :: front ++ ['\x22']).length := by
        rw [hname, opener]
        simp
      have htext : c :: (front ++ '\x22' :: rest) = (c :: front ++ ['\x22']) ++ rest := by simp
      rw [hlength, htext, List.drop_left]
      exact h (hname ▸ List.suffix_rfl)
    rw [List.cons_append, findAttribute?_cons hfirst (Ne.symm hend.1),
      ih (List.not_mem_of_not_mem_cons hquote) hend.2 fun hs => h (hs.trans (List.suffix_cons c _)),
      AttributeMatch.map_behind_map]
    rfl

/-- The scan finds the attribute where its quote opens a value. -/
theorem findAttribute?_found {value : List Char} (hkey : '\x22' ∉ key) (hquote : '\x22' ∉ front)
    (hend : '>' ∉ front) (h : key ++ ['='] <:+ front)
    (hvalue : quotedValue? rest = some value) :
    findAttribute? (opener key) (front ++ '\x22' :: rest) =
      some ⟨front ++ ['\x22'], value⟩ := by
  induction front with
  | nil =>
    have hnil := List.suffix_nil.mp h
    exact absurd hnil (List.append_ne_nil_of_right_ne_nil key (List.cons_ne_nil _ _))
  | cons c front ih =>
    rw [List.mem_cons, not_or] at hend
    by_cases hname : c :: front = key ++ ['=']
    · have hprefix : (opener key).isPrefixOf (c :: (front ++ '\x22' :: rest)) = true :=
        (opener_prefix_iff hkey hquote).mpr hname
      have hopener : opener key = c :: front ++ ['\x22'] := by
        rw [hname, opener]
        simp
      have htext : c :: (front ++ '\x22' :: rest) = opener key ++ rest := by simp [hopener]
      rw [List.cons_append, findAttribute?, if_pos hprefix, htext, List.drop_left, hvalue, hopener]
    · have hfirst : (opener key).isPrefixOf (c :: (front ++ '\x22' :: rest)) = true →
          quotedValue? ((c :: (front ++ '\x22' :: rest)).drop (opener key).length) = none :=
        fun hprefix => absurd ((opener_prefix_iff hkey hquote).mp hprefix) hname
      have hrest : key ++ ['='] <:+ front :=
        (List.suffix_cons_iff.mp h).resolve_left fun he => hname he.symm
      rw [List.cons_append, findAttribute?_cons hfirst (Ne.symm hend.1),
        ih (List.not_mem_of_not_mem_cons hquote) hend.2 hrest]
      rfl

end Find

section Map

variable {start element word : List Char} {f : List Char → List Char}

/-- Passing over characters is the same as dropping them first. -/
theorem mapAttributeFrom_eq_drop (skip : Nat) (cs : List Char) :
    mapAttributeFrom start word f skip cs = mapAttribute start word f (cs.drop skip) := by
  induction cs generalizing skip with
  | nil => cases skip <;> simp [mapAttribute, mapAttributeFrom]
  | cons c cs ih =>
    cases skip with
    | zero => rfl
    | succ skip => simpa [mapAttributeFrom] using ih skip

/-- A character is kept unless a tag with the attribute begins there. -/
theorem mapAttribute_cons {c : Char} {cs : List Char}
    (h : start.isPrefixOf (c :: cs) = true →
      findAttribute? word ((c :: cs).drop start.length) = none) :
    mapAttribute start word f (c :: cs) = c :: mapAttribute start word f cs := by
  have hfound : (if start.isPrefixOf (c :: cs) = true then
      findAttribute? word ((c :: cs).drop start.length) else none) = none := by
    split
    · exact h ‹_›
    · rfl
  rw [mapAttribute, mapAttributeFrom]
  simp only [hfound]
  rfl

/-- A text in which no tag begins is kept. -/
theorem mapAttribute_append_of_not_mem {s : List Char} (h : '<' ∉ s) (t : List Char) :
    mapAttribute (tagStart element) word f (s ++ t) =
      s ++ mapAttribute (tagStart element) word f t := by
  induction s with
  | nil => rfl
  | cons c s ih =>
    rw [List.mem_cons, not_or] at h
    have hfirst : (tagStart element).isPrefixOf (c :: (s ++ t)) = false :=
      isPrefixOf_cons_of_ne h.1 _ _
    have hcons : mapAttribute (tagStart element) word f (c :: (s ++ t)) =
        c :: mapAttribute (tagStart element) word f (s ++ t) :=
      mapAttribute_cons fun hprefix => absurd (hfirst.symm.trans hprefix) Bool.false_ne_true
    rw [List.cons_append, hcons, ih h.2, List.cons_append]

/-- A tag in which the attribute is not found is kept. -/
theorem mapAttribute_tag {body rest : List Char} (hbody : '<' ∉ body)
    (h : (tagStart element).isPrefixOf ('<' :: (body ++ rest)) = true →
      findAttribute? word (('<' :: (body ++ rest)).drop (tagStart element).length) = none) :
    mapAttribute (tagStart element) word f ('<' :: body ++ rest) =
      '<' :: body ++ mapAttribute (tagStart element) word f rest := by
  rw [List.cons_append, mapAttribute_cons h, mapAttribute_append_of_not_mem hbody,
    List.cons_append]

/-- In a tag with the attribute its value is changed, and the scan goes on behind it. -/
theorem mapAttribute_of_found {cs lead value rest : List Char}
    (h : findAttribute? word cs = some ⟨lead, value⟩) (hcs : cs = lead ++ value ++ '\x22' :: rest) :
    mapAttribute (tagStart element) word f (tagStart element ++ cs) =
      tagStart element ++ lead ++ f value ++
        '\x22' :: mapAttribute (tagStart element) word f rest := by
  obtain ⟨c, name, hstart⟩ : ∃ c name, tagStart element = c :: name := ⟨_, _, rfl⟩
  have hprefix : (c :: name).isPrefixOf (c :: (name ++ cs)) = true := by
    rw [List.isPrefixOf_iff_prefix]
    exact List.prefix_append (c :: name) cs
  have hdrop : (c :: (name ++ cs)).drop (c :: name).length = cs :=
    @List.drop_left _ (c :: name) cs
  have hskip : (name ++ cs).drop ((c :: name).length + lead.length + value.length) = rest := by
    have htext : name ++ cs = (name ++ lead ++ value ++ ['\x22']) ++ rest := by
      simp [hcs, List.append_assoc]
    have hlength : (c :: name).length + lead.length + value.length =
        (name ++ lead ++ value ++ ['\x22']).length := by
      simp only [List.length_cons, List.length_append, List.length_nil]
      omega
    rw [htext, hlength, List.drop_left]
  rw [hstart, List.cons_append, mapAttribute, mapAttributeFrom, if_pos hprefix, hdrop, h]
  simp only [mapAttributeFrom_eq_drop, hskip]

end Map

end Folio.Link
