import Mathlib.Data.List.Nodup
import Folio.Proofs.Anchor.Counter

/-!
# Ids behind page ids

On the print page an id is a page id, a hyphen, and a slug with its number. One counter numbers the
slugs of all pages, so a slug and its number occur once. Still the parts are not recovered from the
text: a slug may end with a number, and a page id may go on where another one has its hyphen.
-/

namespace Folio.Anchor

/-- An id handed out on the print page, in its parts. -/
structure Issued where
  page : List Char
  slug : List Char
  number : Nat
  deriving DecidableEq

namespace Issued

/-- What stands behind the page id. -/
def name (issued : Issued) : List Char := numbered issued.slug issued.number

/-- The id itself. -/
def id (issued : Issued) : List Char := issued.page ++ '-' :: issued.name

/-- Another id brings the text of an id about in another way: on the same page its number is a part
of the slug, or its page id takes in the beginning of the name. -/
def Clashes (issued other : Issued) : Prop :=
  (issued.page = other.page ∧ issued.number = 0 ∧ other.number ≠ 0 ∧
    issued.slug = other.slug ++ '-' :: Nat.toDigits 10 other.number) ∨
  ∃ more, other.page = issued.page ++ '-' :: more ∧ issued.name = more ++ '-' :: other.name

variable {issued other : Issued}

theorem Clashes.id_eq_id (h : issued.Clashes other) : issued.id = other.id := by
  rcases h with ⟨hpage, hzero, hnumber, hslug⟩ | ⟨more, hpage, hname⟩
  · have hname : issued.name = other.name := by
      rw [name, name, hzero, Int.ofNat_zero, numbered_zero, numbered_of_ne_zero _ hnumber, hslug]
    rw [id, id, hpage, hname]
  · rw [id, id, hpage, hname, List.append_assoc]
    rfl

theorem not_clashes_self : ¬ issued.Clashes issued := by
  rintro (⟨-, hzero, hnumber, -⟩ | ⟨more, hpage, -⟩)
  · exact hnumber hzero
  · exact absurd (List.self_eq_append_right.mp hpage) (List.cons_ne_nil _ _)

/-- On one page names agree only for one slug and number, or if a number is part of a slug. -/
private theorem clashes_of_name_eq_name (hpage : issued.page = other.page)
    (h : issued.name = other.name) :
    issued = other ∨ issued.Clashes other ∨ other.Clashes issued := by
  rw [name, name, numbered_eq_numbered_iff] at h
  rcases h with ⟨hslug, hnumber⟩ | ⟨hzero, hnumber, hslug⟩ | ⟨hzero, hnumber, hslug⟩
  · left
    cases issued
    cases other
    congr
  · exact Or.inr (Or.inl (Or.inl ⟨hpage, hzero, hnumber, hslug⟩))
  · exact Or.inr (Or.inr (Or.inl ⟨hpage.symm, hzero, hnumber, hslug⟩))

/-- If the page id of the other one is the longer one, it takes in the beginning of the name. -/
private theorem clashes_of_page_prefix {more : List Char} (hpage : other.page = issued.page ++ more)
    (hname : '-' :: issued.name = more ++ '-' :: other.name) :
    issued = other ∨ issued.Clashes other ∨ other.Clashes issued := by
  cases more with
  | nil =>
    rw [List.append_nil] at hpage
    exact clashes_of_name_eq_name hpage.symm (List.cons.inj hname).2
  | cons c more =>
    rw [List.cons_append, List.cons.injEq] at hname
    obtain ⟨rfl, hname⟩ := hname
    exact Or.inr (Or.inl (Or.inr ⟨more, hpage, hname⟩))

/-- Ids are the same text only if they are the same or clash. -/
theorem id_eq_id_iff :
    issued.id = other.id ↔ issued = other ∨ issued.Clashes other ∨ other.Clashes issued := by
  constructor
  · intro h
    rw [id, id, List.append_eq_append_iff] at h
    rcases h with ⟨more, hpage, hname⟩ | ⟨more, hpage, hname⟩
    · exact clashes_of_page_prefix hpage hname
    · rcases clashes_of_page_prefix hpage hname with heq | hclash | hclash
      · exact Or.inl heq.symm
      · exact Or.inr (Or.inr hclash)
      · exact Or.inr (Or.inl hclash)
  · rintro (rfl | hclash | hclash)
    · rfl
    · exact hclash.id_eq_id
    · exact hclash.id_eq_id.symm

/-- Different ids handed out are different texts exactly if none of them clash. -/
theorem nodup_map_id {ids : List Issued} (hids : ids.Nodup) :
    (ids.map Issued.id).Nodup ↔ ∀ issued ∈ ids, ∀ other ∈ ids, ¬ issued.Clashes other := by
  rw [List.nodup_map_iff_inj_on hids]
  constructor
  · intro hinj issued hissued other hother hclash
    have heq := hinj issued hissued other hother hclash.id_eq_id
    rw [heq] at hclash
    exact not_clashes_self hclash
  · intro hclear issued hissued other hother heq
    rcases id_eq_id_iff.mp heq with hsame | hclash | hclash
    · exact hsame
    · exact absurd hclash (hclear issued hissued other hother)
    · exact absurd hclash (hclear other hother issued hissued)

end Issued

section Numbering

/-- The ids that slugs get behind the page ids given with them, if the slugs in `seen` have come
before. -/
def issuedFrom (seen : List (List Char)) : List (List Char × List Char) → List Issued
  | [] => []
  | (page, slug) :: rest => ⟨page, slug, seen.count slug⟩ :: issuedFrom (slug :: seen) rest

variable (seen : List (List Char)) (marks : List (List Char × List Char))

/-- Numbers begin behind those that the slug has had before. -/
theorem count_le_of_mem_issuedFrom {issued : Issued} (h : issued ∈ issuedFrom seen marks) :
    seen.count issued.slug ≤ issued.number := by
  induction marks generalizing seen with
  | nil => exact absurd h List.not_mem_nil
  | cons mark rest ih =>
    rcases List.mem_cons.mp h with rfl | hrest
    · exact le_rfl
    · exact le_trans List.count_le_count_cons (ih _ hrest)

/-- Ids of one slug have growing numbers. -/
theorem pairwise_issuedFrom :
    (issuedFrom seen marks).Pairwise fun earlier later =>
      earlier.slug = later.slug → earlier.number < later.number := by
  induction marks generalizing seen with
  | nil => exact List.Pairwise.nil
  | cons mark rest ih =>
    refine List.Pairwise.cons ?_ (ih _)
    intro later hlater hslug
    have hle := count_le_of_mem_issuedFrom _ rest hlater
    rw [← hslug, List.count_cons_self] at hle
    exact hle

/-- No slug gets a number twice. -/
theorem nodup_issuedFrom : (issuedFrom seen marks).Nodup := by
  have hne : ∀ earlier later : Issued,
      (earlier.slug = later.slug → earlier.number < later.number) → earlier ≠ later := by
    rintro earlier _ hlt rfl
    exact lt_irrefl _ (hlt rfl)
  exact (pairwise_issuedFrom seen marks).imp (hne _ _)

/-- Every id belongs to a slug that was asked for. -/
theorem mem_of_mem_issuedFrom {issued : Issued} (h : issued ∈ issuedFrom seen marks) :
    (issued.page, issued.slug) ∈ marks := by
  induction marks generalizing seen with
  | nil => exact absurd h List.not_mem_nil
  | cons mark rest ih =>
    rcases List.mem_cons.mp h with rfl | hrest
    · exact List.mem_cons_self
    · exact List.mem_cons_of_mem _ (ih _ hrest)

/-- The ids of two rows of slugs, one behind the other. -/
theorem issuedFrom_append (others : List (List Char × List Char)) :
    issuedFrom seen (marks ++ others) =
      issuedFrom seen marks ++ issuedFrom ((marks.map Prod.snd).reverse ++ seen) others := by
  induction marks generalizing seen with
  | nil => rfl
  | cons mark rest ih =>
    simp only [List.cons_append, issuedFrom, ih, List.map_cons, List.reverse_cons,
      List.append_assoc, List.nil_append]

end Numbering

end Folio.Anchor
