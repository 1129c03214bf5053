import Folio.Proofs.Link.Scan
import Mathlib.Data.Bool.AllAny
import Mathlib.Tactic.MkIffOfInductiveProp

/-!
# Fragments of plain markup

A fragment of raw HTML is made of texts and tags. If its tags are spelled plainly, with names and
keys of plain characters and values that hold no marks, then the scan for one attribute of one
element finds it in every tag that has it, whatever stands in front of it, and changes nothing but
its values.
-/

namespace Folio.Link

open Folio.Text

/-- A character of the names of elements and attributes. -/
def isNameChar (c : Char) : Bool := c.isLower || c.isDigit || c = '-'

/-- A name made of such characters. -/
def IsPlainName (name : List Char) : Prop := ∀ c ∈ name, isNameChar c = true

instance (name : List Char) : Decidable (IsPlainName name) := List.decidableBAll _ _

/-- The marks that delimit tags and values. -/
def markupMarks : List Char := ['\x22', '<', '>']

/-- A text without such marks. -/
def IsInert (cs : List Char) : Prop := ∀ mark ∈ markupMarks, mark ∉ cs

instance (cs : List Char) : Decidable (IsInert cs) := List.decidableBAll _ _

/-- The attributes that are resolved in one element or another. -/
def resolvedKeys : List (List Char) := ["href".toList, "name".toList, "src".toList]

/-- A value that neither holds marks nor ends like the beginning of an attribute. -/
@[mk_iff] structure IsPlainValue (value : List Char) : Prop where
  inert : IsInert value
  end_ne : ∀ key ∈ resolvedKeys, ¬ key ++ ['='] <:+ value

instance (value : List Char) : Decidable (IsPlainValue value) :=
  decidable_of_iff _ (isPlainValue_iff value).symm

/-- An attribute of a tag. -/
structure Attribute where
  key : List Char
  value : List Char
  deriving DecidableEq, Repr

namespace Attribute

/-- What stands in front of the quoted value. -/
def lead (attr : Attribute) : List Char := ' ' :: attr.key ++ ['=']

/-- The attribute as it is written behind the name of the element. -/
def html (attr : Attribute) : List Char := attr.lead ++ '\x22' :: attr.value ++ ['\x22']

/-- A plain value behind a plain key, which ends like the key of an attribute that is resolved only
if it is one. -/
@[mk_iff] structure IsPlain (attr : Attribute) : Prop where
  key : IsPlainName attr.key
  key_end : ∀ key ∈ resolvedKeys, key <:+ attr.key → attr.key ∈ resolvedKeys
  value : IsPlainValue attr.value

instance (attr : Attribute) : Decidable attr.IsPlain := decidable_of_iff _ attr.isPlain_iff.symm

end Attribute

/-- A part of a fragment: a text, an end tag or a start tag. -/
inductive Part where
  | text (cs : List Char)
  | closing (name : List Char)
  | opening (name : List Char) (attrs : List Attribute)
  deriving DecidableEq, Repr

namespace Part

/-- The part as it is written. -/
def html : Part → List Char
  | text cs => cs
  | closing name => '<' :: '/' :: name ++ ['>']
  | opening name attrs => '<' :: name ++ attrs.flatMap Attribute.html ++ ['>']

/-- No tag begins in a text, names are plain, and the attributes of a tag are plain and have distinct
keys. -/
def IsPlain : Part → Prop
  | text cs => '<' ∉ cs
  | closing name => IsPlainName name
  | opening name attrs =>
    IsPlainName name ∧ (∀ attr ∈ attrs, attr.IsPlain) ∧ (attrs.map Attribute.key).Nodup

instance : (part : Part) → Decidable part.IsPlain
  | text _ => inferInstanceAs (Decidable (_ ∉ _))
  | closing _ => inferInstanceAs (Decidable (IsPlainName _))
  | opening _ _ => inferInstanceAs (Decidable (_ ∧ _ ∧ _))

end Part

/-- A fragment of raw HTML. -/
def fragment (parts : List Part) : List Char := parts.flatMap Part.html

section Plain

theorem isInert_append {s t : List Char} : IsInert (s ++ t) ↔ IsInert s ∧ IsInert t := by
  simp only [IsInert, List.mem_append, not_or]
  exact ⟨fun h => ⟨fun mark hm => (h mark hm).1, fun mark hm => (h mark hm).2⟩,
    fun h mark hm => ⟨h.1 mark hm, h.2 mark hm⟩⟩

theorem IsPlainName.isInert {name : List Char} (h : IsPlainName name) : IsInert name := by
  have hmarks : ∀ mark ∈ markupMarks, isNameChar mark = false :=
    List.all_iff_forall_prop.mp (by decide)
  intro mark hmark hmem
  exact Bool.false_ne_true ((hmarks mark hmark).symm.trans (h mark hmem))

theorem isPlainName_of_mem_resolvedKeys : ∀ key ∈ resolvedKeys, IsPlainName key := by decide

/-- A plain value stays plain behind a text and a mark that no key holds. -/
theorem IsPlainValue.behind_mark {front value : List Char} {mark : Char} (h : IsPlainValue value)
    (hfront : IsInert (front ++ [mark])) (hmark : ∀ key ∈ resolvedKeys, mark ∉ key ++ ['=']) :
    IsPlainValue (front ++ mark :: value) where
  inert := by
    rw [← List.singleton_append, ← List.append_assoc]
    exact isInert_append.mpr ⟨hfront, h.inert⟩
  end_ne key hkey hsuffix :=
    h.end_ne key hkey (suffix_of_suffix_append_mark (hmark key hkey) hsuffix)

theorem Attribute.IsPlain.lead_isInert {attr : Attribute} (h : attr.IsPlain) :
    IsInert attr.lead := by
  have hkey : IsInert attr.key := h.key.isInert
  rw [Attribute.lead, List.cons_append, ← List.singleton_append]
  exact isInert_append.mpr ⟨by decide, isInert_append.mpr ⟨hkey, by decide⟩⟩

/-- No tag begins in an attribute. -/
theorem Attribute.IsPlain.html_no_tag {attr : Attribute} (h : attr.IsPlain) : '<' ∉ attr.html := by
  have hlead : '<' ∉ attr.lead := h.lead_isInert '<' (by decide)
  have hvalue : '<' ∉ attr.value := h.value.inert '<' (by decide)
  simp [Attribute.html, hlead, hvalue]

end Plain

section Attribute

variable {key : List Char} (hkey : key ∈ resolvedKeys)
include hkey

theorem quote_not_mem_key : '\x22' ∉ key :=
  (isPlainName_of_mem_resolvedKeys key hkey).isInert '\x22' (by decide)

/-- The scan finds no attribute where no name begins. -/
theorem opener_isPrefixOf_eq_false {c : Char} (hc : isNameChar c = false) (cs : List Char) :
    (opener key).isPrefixOf (c :: cs) = false := by
  have hchars := isPlainName_of_mem_resolvedKeys key hkey
  cases key with
  | nil => exact absurd hkey (by decide)
  | cons d key =>
    have hne : d ≠ c := by
      rintro rfl
      exact Bool.false_ne_true (hc.symm.trans (hchars d List.mem_cons_self))
    exact isPrefixOf_cons_of_ne hne _ _

/-- The scan goes no farther than the end of the tag. -/
theorem findAttribute?_end (rest : List Char) :
    findAttribute? (opener key) ('>' :: rest) = none := by
  rw [findAttribute?, opener_isPrefixOf_eq_false hkey (by decide)]
  rfl

theorem findAttribute?_space (cs : List Char) :
    findAttribute? (opener key) (' ' :: cs) =
      (findAttribute? (opener key) cs).map (.behind [' ']) := by
  apply findAttribute?_cons
  · intro hprefix
    rw [opener_isPrefixOf_eq_false hkey (by decide)] at hprefix
    exact absurd hprefix Bool.false_ne_true
  · decide

/-- Whether the scan is to change the value of an attribute. -/
def Attribute.IsSought (key : List Char) (attr : Attribute) : Prop :=
  attr.key = key ∧ attr.value ≠ []

omit hkey in
theorem Attribute.html_append (attr : Attribute) (rest : List Char) :
    attr.html ++ rest = attr.lead ++ '\x22' :: (attr.value ++ '\x22' :: rest) := by
  simp [Attribute.html]

/-- The key of a plain attribute is told by its end. -/
theorem Attribute.IsPlain.key_eq {attr : Attribute} (h : attr.IsPlain)
    (hend : key ++ ['='] <:+ attr.lead) : attr.key = key := by
  have hkeys : ∀ key ∈ resolvedKeys, ∀ other ∈ resolvedKeys, key <:+ other → other = key := by
    decide
  -- The lead is the key between a space, which no key holds, and the equality sign.
  obtain ⟨front, hfront⟩ := hend
  rw [Attribute.lead, ← List.append_assoc] at hfront
  have hsuffix : key <:+ ' ' :: attr.key := ⟨front, List.append_cancel_right hfront⟩
  rcases List.suffix_cons_iff.mp hsuffix with rfl | hsuffix
  · have hspace := isPlainName_of_mem_resolvedKeys _ hkey ' ' List.mem_cons_self
    exact absurd hspace (by decide)
  · exact hkeys key hkey attr.key (h.key_end key hkey hsuffix) hsuffix

/-- An attribute with another key or without a value is passed over. -/
theorem findAttribute?_html_pass {attr : Attribute} (hattr : attr.IsPlain)
    (h : ¬ attr.IsSought key) (rest : List Char) :
    findAttribute? (opener key) (attr.html ++ rest) =
      (findAttribute? (opener key) rest).map (.behind attr.html) := by
  have hquote := quote_not_mem_key hkey
  have hlead : key ++ ['='] <:+ attr.lead →
      quotedValue? (attr.value ++ '\x22' :: rest) = none := by
    intro hend
    have hempty : attr.value = [] := by
      by_contra hne
      exact h ⟨hattr.key_eq hkey hend, hne⟩
    rw [hempty]
    rfl
  have hvalue : key ++ ['='] <:+ attr.value → quotedValue? rest = none :=
    fun hend => absurd hend (hattr.value.end_ne key hkey)
  have hinert := hattr.lead_isInert
  rw [attr.html_append, findAttribute?_pass hquote (hinert _ (by decide)) (hinert _ (by decide))
    hlead, findAttribute?_pass hquote (hattr.value.inert _ (by decide))
    (hattr.value.inert _ (by decide)) hvalue, AttributeMatch.map_behind_map]
  simp [Attribute.html]

/-- The attribute with the key is found by its value. -/
theorem findAttribute?_html_found {attr : Attribute} (hattr : attr.IsPlain)
    (h : attr.IsSought key) (rest : List Char) :
    findAttribute? (opener key) (attr.html ++ rest) =
      some ⟨attr.lead ++ ['\x22'], attr.value⟩ := by
  have hinert := hattr.lead_isInert
  have hend : key ++ ['='] <:+ attr.lead := by
    rw [← h.1]
    exact List.suffix_cons ' ' _
  have hvalue : quotedValue? (attr.value ++ '\x22' :: rest) = some attr.value :=
    quotedValue?_append h.2 (hattr.value.inert _ (by decide)) rest
  rw [attr.html_append]
  exact findAttribute?_found (quote_not_mem_key hkey) (hinert _ (by decide)) (hinert _ (by decide))
    hend hvalue

theorem findAttribute?_attributes_pass {attrs : List Attribute}
    (hattrs : ∀ attr ∈ attrs, attr.IsPlain) (h : ∀ attr ∈ attrs, ¬ attr.IsSought key)
    (rest : List Char) :
    findAttribute? (opener key) (attrs.flatMap Attribute.html ++ rest) =
      (findAttribute? (opener key) rest).map (.behind (attrs.flatMap Attribute.html)) := by
  induction attrs with
  | nil =>
    have hnil : AttributeMatch.behind [] = id := rfl
    rw [List.flatMap_nil, List.nil_append, hnil, Option.map_id_fun, id]
  | cons attr attrs ih =>
    rw [List.forall_mem_cons] at hattrs h
    rw [List.flatMap_cons, List.append_assoc, findAttribute?_html_pass hkey hattrs.1 h.1,
      ih hattrs.2 h.2, AttributeMatch.map_behind_map]

theorem findAttribute?_attributes_found {attrs : List Attribute} {attr : Attribute}
    (hattrs : ∀ attr ∈ attrs, attr.IsPlain) (h : ∀ attr ∈ attrs, ¬ attr.IsSought key)
    (hattr : attr.IsPlain) (hsought : attr.IsSought key) (rest : List Char) :
    findAttribute? (opener key) (attrs.flatMap Attribute.html ++ (attr.html ++ rest)) =
      some ⟨attrs.flatMap Attribute.html ++ (attr.lead ++ ['\x22']), attr.value⟩ := by
  rw [findAttribute?_attributes_pass hkey hattrs h, findAttribute?_html_found hkey hattr hsought]
  rfl

/-- Behind the name of the element the scan begins after a space. -/
theorem mapAttribute_element {element lead value rest text : List Char}
    {f : List Char → List Char} (h : findAttribute? (opener key) text = some ⟨' ' :: lead, value⟩)
    (htext : text = ' ' :: lead ++ value ++ '\x22' :: rest) :
    mapAttribute (tagStart element) (opener key) f ('<' :: element ++ text) =
      '<' :: element ++ ' ' :: lead ++ f value ++
        '\x22' :: mapAttribute (tagStart element) (opener key) f rest := by
  rw [htext, List.cons_append, List.cons_append, findAttribute?_space hkey,
    Option.map_eq_some_iff] at h
  obtain ⟨⟨front, found⟩, hfound, heq⟩ := h
  obtain ⟨hfront, rfl⟩ := AttributeMatch.mk.inj heq
  obtain rfl : front = lead := (List.cons.inj hfront).2
  have hstart : '<' :: element ++ text =
      tagStart element ++ (front ++ found ++ '\x22' :: rest) := by
    simp [htext, tagStart]
  rw [hstart, mapAttribute_of_found hfound rfl]
  simp [tagStart]

end Attribute

section Map

variable {element key : List Char} {f : List Char → List Char}

/-- The attribute with its value changed, if the scan is to change it. -/
def Attribute.mapValue (key : List Char) (f : List Char → List Char) (attr : Attribute) :
    Attribute :=
  if attr.key = key ∧ attr.value ≠ [] then { attr with value := f attr.value } else attr

/-- The part with the values of an attribute of the element changed. -/
def Part.mapValue (element key : List Char) (f : List Char → List Char) : Part → Part
  | opening name attrs =>
    opening name (if name = element then attrs.map (.mapValue key f) else attrs)
  | part => part

theorem Attribute.mapValue_of_sought {attr : Attribute} (h : attr.IsSought key) :
    attr.mapValue key f = { attr with value := f attr.value } := if_pos h

theorem Attribute.mapValue_of_not_sought {attr : Attribute} (h : ¬ attr.IsSought key) :
    attr.mapValue key f = attr := if_neg h

@[simp] theorem Attribute.mapValue_key (attr : Attribute) :
    (attr.mapValue key f).key = attr.key := by
  rw [Attribute.mapValue]
  split <;> rfl

theorem map_mapValue_eq_self {attrs : List Attribute} (h : ∀ attr ∈ attrs, ¬ attr.IsSought key) :
    attrs.map (.mapValue key f) = attrs :=
  map_eq_self fun attr hattr => Attribute.mapValue_of_not_sought (h attr hattr)

/-- Of distinct keys at most one is sought. -/
theorem exists_sought {attrs : List Attribute} (hkeys : (attrs.map Attribute.key).Nodup)
    (h : ∃ attr ∈ attrs, attr.IsSought key) :
    ∃ before attr behind, attrs = before ++ attr :: behind ∧ attr.IsSought key ∧
      (∀ other ∈ before, ¬ other.IsSought key) ∧ ∀ other ∈ behind, ¬ other.IsSought key := by
  obtain ⟨attr, hmem, hsought⟩ := h
  obtain ⟨before, behind, rfl⟩ := List.append_of_mem hmem
  rw [List.map_append, List.map_cons, List.perm_middle.nodup_iff, List.nodup_cons,
    ← List.map_append] at hkeys
  have hothers : ∀ other ∈ before ++ behind, ¬ other.IsSought key := by
    intro other hother hkey
    apply hkeys.1
    rw [hsought.1, ← hkey.1]
    exact List.mem_map_of_mem hother
  exact ⟨before, attr, behind, rfl, hsought, List.forall_mem_append.mp hothers⟩

/-- A tag of the element begins where its name ends with a space. -/
theorem tagStart_prefix_iff {name rest : List Char} {c : Char}
    (helement : IsPlainName element) (hname : IsPlainName name)
    (hc : isNameChar c = false) :
    (tagStart element).isPrefixOf ('<' :: (name ++ c :: rest)) = true ↔
      element = name ∧ c = ' ' := by
  rw [tagStart, List.isPrefixOf_iff_prefix, List.cons_prefix_cons, and_iff_right rfl]
  constructor
  · rintro ⟨behind, hbehind⟩
    rw [List.append_assoc, List.singleton_append] at hbehind
    have hnames := congrArg (List.takeWhile isNameChar) hbehind
    rw [List.takeWhile_append_of_pos helement, List.takeWhile_append_of_pos hname,
      List.takeWhile_cons_of_neg (by decide), List.takeWhile_cons_of_neg (by simp [hc]),
      List.append_nil, List.append_nil] at hnames
    subst hnames
    exact ⟨rfl, (List.cons.inj (List.append_cancel_left hbehind)).1.symm⟩
  · rintro ⟨rfl, rfl⟩
    exact ⟨rest, by rw [List.append_assoc, List.singleton_append]⟩

variable (hkey : key ∈ resolvedKeys) (helement : IsPlainName element)

section Tag

variable {name : List Char} {attrs : List Attribute} (hattrs : ∀ attr ∈ attrs, attr.IsPlain)

include hattrs in
theorem attributes_no_tag : '<' ∉ attrs.flatMap Attribute.html := by
  intro hmem
  obtain ⟨attr, hattr, hhtml⟩ := List.mem_flatMap.mp hmem
  exact (hattrs attr hattr).html_no_tag hhtml

/-- The name of a start tag ends where an attribute or the end of the tag follows. -/
theorem exists_behind_name (attrs : List Attribute) (rest : List Char) :
    ∃ c cs, attrs.flatMap Attribute.html ++ '>' :: rest = c :: cs ∧ isNameChar c = false := by
  cases attrs with
  | nil => exact ⟨'>', rest, rfl, by decide⟩
  | cons attr attrs => exact ⟨' ', _, rfl, by decide⟩

include hkey helement hattrs

/-- A start tag is kept if it is one of another element or the attribute is not in it. -/
theorem mapAttribute_opening_self (hname : IsPlainName name)
    (h : name = element → ∀ attr ∈ attrs, ¬ attr.IsSought key) (rest : List Char) :
    mapAttribute (tagStart element) (opener key) f
        ((Part.opening name attrs).html ++ rest) =
      (Part.opening name attrs).html ++
        mapAttribute (tagStart element) (opener key) f rest := by
  have hbody : '<' ∉ name ++ attrs.flatMap Attribute.html ++ ['>'] := by
    have hinert := hname.isInert '<' (by decide)
    simp [hinert, attributes_no_tag hattrs]
  have hhtml : (Part.opening name attrs).html =
      '<' :: (name ++ attrs.flatMap Attribute.html ++ ['>']) := rfl
  obtain ⟨c, cs, hcs, hc⟩ := exists_behind_name attrs rest
  have htext : name ++ attrs.flatMap Attribute.html ++ ['>'] ++ rest = name ++ c :: cs := by
    rw [← hcs]
    simp only [List.append_assoc, List.singleton_append]
  rw [hhtml]
  apply mapAttribute_tag hbody
  intro hprefix
  rw [htext] at hprefix ⊢
  obtain ⟨rfl, rfl⟩ := (tagStart_prefix_iff helement hname hc).mp hprefix
  have hdrop : ('<' :: (element ++ ' ' :: cs)).drop (tagStart element).length = cs := by
    have hfront : '<' :: (element ++ ' ' :: cs) = tagStart element ++ cs := by simp [tagStart]
    rw [hfront, List.drop_left]
  have hnone : findAttribute? (opener key) (' ' :: cs) = none := by
    rw [← hcs, findAttribute?_attributes_pass hkey hattrs (h rfl), findAttribute?_end hkey]
    rfl
  rw [findAttribute?_space hkey, Option.map_eq_none_iff] at hnone
  rw [hdrop, hnone]

omit helement in
/-- The first attribute with the key is changed, and the scan goes on behind it. -/
theorem mapAttribute_opening_found (h : ∀ attr ∈ attrs, ¬ attr.IsSought key) {attr : Attribute}
    (hattr : attr.IsPlain) (hsought : attr.IsSought key) (rest : List Char) :
    mapAttribute (tagStart element) (opener key) f
        ('<' :: element ++ attrs.flatMap Attribute.html ++ attr.html ++ rest) =
      '<' :: element ++ attrs.flatMap Attribute.html ++ (attr.mapValue key f).html ++
        mapAttribute (tagStart element) (opener key) f rest := by
  obtain ⟨lead, hlead⟩ : ∃ lead,
      attrs.flatMap Attribute.html ++ (attr.lead ++ ['\x22']) = ' ' :: lead := by
    cases attrs <;> exact ⟨_, rfl⟩
  have hfound := findAttribute?_attributes_found hkey hattrs h hattr hsought rest
  have htext : attrs.flatMap Attribute.html ++ (attr.html ++ rest) =
      ' ' :: lead ++ attr.value ++ '\x22' :: rest := by
    rw [← hlead]
    simp [Attribute.html]
  rw [hlead] at hfound
  rw [List.append_assoc, List.append_assoc, mapAttribute_element hkey hfound htext,
    Attribute.mapValue_of_sought hsought]
  have hchanged : attrs.flatMap Attribute.html ++
      Attribute.html { attr with value := f attr.value } = ' ' :: lead ++ f attr.value ++ ['\x22'] := by
    rw [← hlead]
    simp [Attribute.html, Attribute.lead]
  rw [List.append_assoc _ (attrs.flatMap Attribute.html), hchanged]
  simp

/-- Scanning over a start tag changes the value of the attribute in it, if it is there. -/
theorem mapAttribute_opening (hname : IsPlainName name)
    (hkeys : (attrs.map Attribute.key).Nodup) (rest : List Char) :
    mapAttribute (tagStart element) (opener key) f ((Part.opening name attrs).html ++ rest) =
      ((Part.opening name attrs).mapValue element key f).html ++
        mapAttribute (tagStart element) (opener key) f rest := by
  by_cases hsought : name = element ∧ ∃ attr ∈ attrs, attr.IsSought key
  · obtain ⟨rfl, hsought⟩ := hsought
    obtain ⟨before, attr, behind, rfl, hsought, hbefore, hbehind⟩ := exists_sought hkeys hsought
    rw [List.forall_mem_append, List.forall_mem_cons] at hattrs
    have hmap : (before ++ attr :: behind).map (.mapValue key f) =
        before ++ attr.mapValue key f :: behind := by
      rw [List.map_append, List.map_cons, map_mapValue_eq_self hbefore,
        map_mapValue_eq_self hbehind]
    have htext (attr : Attribute) (rest : List Char) :
        (Part.opening name (before ++ attr :: behind)).html ++ rest =
          '<' :: name ++ before.flatMap Attribute.html ++ attr.html ++
            (behind.flatMap Attribute.html ++ ['>'] ++ rest) := by
      simp [Part.html]
    have hend : '<' ∉ behind.flatMap Attribute.html ++ ['>'] := by
      simp [attributes_no_tag hattrs.2.2]
    rw [Part.mapValue, if_pos rfl, hmap, htext, htext,
      mapAttribute_opening_found hkey hattrs.1 hbefore hattrs.2.1 hsought,
      mapAttribute_append_of_not_mem hend]
  · have hnot : name = element → ∀ attr ∈ attrs, ¬ attr.IsSought key := by
      intro heq attr hattr hkey
      exact hsought ⟨heq, attr, hattr, hkey⟩
    have hself : (if name = element then attrs.map (.mapValue key f) else attrs) = attrs := by
      split
      · exact map_mapValue_eq_self (hnot ‹_›)
      · rfl
    rw [Part.mapValue, hself]
    exact mapAttribute_opening_self hkey helement hattrs hname hnot rest

end Tag

include hkey helement

/-- Scanning over one part changes the values of the attribute in it. -/
theorem mapAttribute_part {part : Part} (h : part.IsPlain) (rest : List Char) :
    mapAttribute (tagStart element) (opener key) f (part.html ++ rest) =
      (part.mapValue element key f).html ++
        mapAttribute (tagStart element) (opener key) f rest := by
  cases part with
  | text cs => exact mapAttribute_append_of_not_mem h rest
  | closing name =>
    have hbody : '<' ∉ '/' :: name ++ ['>'] := by
      have hinert := IsPlainName.isInert h '<' (by decide)
      simp [hinert]
    apply mapAttribute_tag hbody
    intro hprefix
    have hstart := @tagStart_prefix_iff element [] (name ++ ['>'] ++ rest) '/' helement nofun
      (by decide)
    exact absurd (hstart.mp hprefix).2 (by decide)
  | opening name attrs =>
    exact mapAttribute_opening hkey helement h.2.1 h.1 h.2.2 rest

/-- Scanning over a fragment changes the values of the attribute in all parts. -/
theorem mapAttribute_fragment {parts : List Part} (h : ∀ part ∈ parts, part.IsPlain) :
    mapAttribute (tagStart element) (opener key) f (fragment parts) =
      fragment (parts.map (.mapValue element key f)) := by
  induction parts with
  | nil => rfl
  | cons part parts ih =>
    rw [List.forall_mem_cons] at h
    have hcons (part : Part) (parts : List Part) :
        fragment (part :: parts) = part.html ++ fragment parts := rfl
    rw [List.map_cons, hcons, hcons, mapAttribute_part hkey helement h.1, ih h.2]

omit hkey helement in
/-- The parts stay plain if the values do. -/
theorem Part.IsPlain.mapValue {part : Part} (h : part.IsPlain)
    (hf : ∀ value, IsPlainValue value → IsPlainValue (f value)) :
    (part.mapValue element key f).IsPlain := by
  cases part with
  | text cs => exact h
  | closing name => exact h
  | opening name attrs =>
    obtain ⟨hname, hattrs, hkeys⟩ := h
    by_cases heq : name = element
    · have hkeysMap : (attrs.map (.mapValue key f)).map Attribute.key =
          attrs.map Attribute.key := by
        simp
      rw [Part.mapValue, if_pos heq]
      refine ⟨hname, fun changed hchanged => ?_, hkeysMap ▸ hkeys⟩
      obtain ⟨attr, hattr, rfl⟩ := List.mem_map.mp hchanged
      obtain ⟨hchars, hend, hvalue⟩ := hattrs attr hattr
      by_cases hsought : attr.IsSought key
      · rw [Attribute.mapValue_of_sought hsought]
        exact ⟨hchars, hend, hf attr.value hvalue⟩
      · rw [Attribute.mapValue_of_not_sought hsought]
        exact ⟨hchars, hend, hvalue⟩
    · rw [Part.mapValue, if_neg heq]
      exact ⟨hname, hattrs, hkeys⟩

end Map

end Folio.Link
