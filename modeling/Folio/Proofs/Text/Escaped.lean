import Folio.Text.Escape
import Mathlib.Logic.Function.Basic

/-!
# Escaped texts

Six characters are escaped, each as an entity of its own. Every entity begins with an ampersand and
holds no other one, so an escaped text parts into the spellings of its characters in one way only
and is read back. Escaped are just the texts that hold none of the other five characters and no
ampersand that does not begin an entity.
-/

namespace Folio.Text

/-- The characters that are escaped besides the ampersand. -/
def guarded : List Char := ['<', '>', '\x27', '\x22', '\\']

/-- The entities that these characters and the ampersand are written as. -/
def entities : List (List Char) :=
  ["&amp;".toList, "&lt;".toList, "&gt;".toList, "&#39;".toList, "&quot;".toList, "&#92;".toList]

theorem entities_eq : entities = ('&' :: guarded).map specialEscape := by decide

/-- A text in which every ampersand begins an entity and no other escaped character stands. -/
structure IsEscaped (text : List Char) : Prop where
  no_guarded : ∀ c ∈ guarded, c ∉ text
  begins_entity : ∀ before behind, text = before ++ '&' :: behind →
    ∃ entity ∈ entities, entity <+: '&' :: behind

section Character

variable {c : Char}

/-- Any character but these stands for itself. -/
theorem specialEscape_of_not_mem (h : c ∉ '&' :: guarded) : specialEscape c = [c] := by
  unfold specialEscape
  split <;> first | rfl | exact absurd (by decide) h

/-- An entity holds one ampersand, at its beginning, and none of the other characters. -/
theorem specialEscape_of_mem (h : c ∈ '&' :: guarded) :
    ∃ name, specialEscape c = '&' :: name ∧ ∀ d ∈ '&' :: guarded, d ∉ name := by
  have hall : ('&' :: guarded).all (fun c => (specialEscape c).head? = some '&' ∧
      ('&' :: guarded).all (· ∉ (specialEscape c).tail)) = true := by decide
  obtain ⟨hhead, htail⟩ := of_decide_eq_true (List.all_eq_true.mp hall c h)
  obtain ⟨name, hname⟩ := List.head?_eq_some_iff.mp hhead
  rw [hname] at htail
  exact ⟨name, hname, fun d hd => of_decide_eq_true (List.all_eq_true.mp htail d hd)⟩

/-- The spelling of a character is read back, whatever stands behind it. -/
theorem decodeSpecial_specialEscape (c : Char) (cs : List Char) :
    decodeSpecial (specialEscape c ++ cs) = c :: decodeSpecial cs := by
  by_cases h : c ∈ '&' :: guarded
  · revert c
    simp only [guarded, List.forall_mem_cons]
    exact ⟨rfl, rfl, rfl, rfl, rfl, rfl, nofun⟩
  · have hne : c ≠ '&' := fun he => h (he ▸ List.mem_cons_self)
    rw [specialEscape_of_not_mem h, List.singleton_append, decodeSpecial]
    all_goals exact fun _ he => absurd he hne

end Character

section Text

/-- An escaped text is read back. -/
theorem decodeSpecial_escapeSpecial (cs : List Char) : decodeSpecial (escapeSpecial cs) = cs := by
  induction cs with
  | nil => rfl
  | cons c cs ih =>
    rw [escapeSpecial, List.flatMap_cons, decodeSpecial_specialEscape, ← escapeSpecial, ih]

theorem escapeSpecial_injective : Function.Injective escapeSpecial :=
  Function.LeftInverse.injective decodeSpecial_escapeSpecial

theorem isEscaped_nil : IsEscaped [] where
  no_guarded _ _ := List.not_mem_nil
  begins_entity before behind h := absurd h.symm (by simp)

/-- The spelling of a character may be put in front. -/
theorem IsEscaped.append {text : List Char} (h : IsEscaped text) (c : Char) :
    IsEscaped (specialEscape c ++ text) := by
  by_cases hc : c ∈ '&' :: guarded
  · obtain ⟨name, hname, hnot⟩ := specialEscape_of_mem hc
    have hentity : specialEscape c ∈ entities := entities_eq ▸ List.mem_map_of_mem hc
    rw [hname] at hentity ⊢
    constructor
    · intro d hd hmem
      rcases List.mem_cons.mp hmem with rfl | hmem
      · exact absurd hd (by decide)
      · rcases List.mem_append.mp hmem with hmem | hmem
        · exact hnot d (List.mem_cons_of_mem _ hd) hmem
        · exact h.no_guarded d hd hmem
    · intro before behind hsplit
      cases before with
      | nil =>
        refine ⟨'&' :: name, hentity, ?_⟩
        rw [List.nil_append] at hsplit
        rw [← hsplit]
        exact List.prefix_append _ _
      | cons d before =>
        -- Behind its beginning an entity holds no ampersand.
        have hrest := (List.cons.inj hsplit).2
        rcases List.append_eq_append_iff.mp hrest with ⟨front, rfl, htext⟩ | ⟨front, hfront, htext⟩
        · exact h.begins_entity front behind htext
        · cases front with
          | nil => exact h.begins_entity [] behind htext.symm
          | cons d front =>
            obtain ⟨rfl, -⟩ := List.cons.inj htext
            exact absurd (hfront ▸ List.mem_append_right _ List.mem_cons_self)
              (hnot '&' List.mem_cons_self)
  · rw [specialEscape_of_not_mem hc, List.singleton_append]
    rw [List.mem_cons, not_or] at hc
    constructor
    · intro d hd hmem
      rcases List.mem_cons.mp hmem with rfl | hmem
      · exact hc.2 hd
      · exact h.no_guarded d hd hmem
    · intro before behind hsplit
      cases before with
      | nil => exact absurd (List.cons.inj hsplit).1 hc.1
      | cons d before => exact h.begins_entity before behind (List.cons.inj hsplit).2

/-- What stands behind a spelling is escaped again. -/
theorem IsEscaped.of_append {front text : List Char} (h : IsEscaped (front ++ text)) :
    IsEscaped text where
  no_guarded c hc hmem := h.no_guarded c hc (List.mem_append_right _ hmem)
  begins_entity before behind hsplit :=
    h.begins_entity (front ++ before) behind (by rw [hsplit, List.append_assoc])

/-- An escaped text begins with the spelling of a character. -/
theorem IsEscaped.exists_front {c : Char} {rest : List Char} (h : IsEscaped (c :: rest)) :
    ∃ d behind, specialEscape d ++ behind = c :: rest := by
  by_cases hc : c = '&'
  · subst hc
    obtain ⟨entity, hentity, behind, hbehind⟩ := h.begins_entity [] rest rfl
    rw [entities_eq] at hentity
    obtain ⟨d, -, rfl⟩ := List.mem_map.mp hentity
    exact ⟨d, behind, hbehind⟩
  · have hnot : c ∉ '&' :: guarded := fun hmem =>
      h.no_guarded c ((List.mem_cons.mp hmem).resolve_left hc) List.mem_cons_self
    exact ⟨c, rest, by rw [specialEscape_of_not_mem hnot, List.singleton_append]⟩

theorem specialEscape_ne_nil (c : Char) : specialEscape c ≠ [] := by
  unfold specialEscape
  split <;> exact List.cons_ne_nil _ _

/-- So it is made of such spellings. -/
theorem IsEscaped.exists_escapeSpecial {text : List Char} (h : IsEscaped text) :
    ∃ cs, escapeSpecial cs = text := by
  match text with
  | [] => exact ⟨[], rfl⟩
  | c :: rest =>
    obtain ⟨d, behind, hfront⟩ := h.exists_front
    rw [← hfront] at h
    have hshorter : behind.length < (c :: rest).length := by
      have hlength := List.length_pos_iff.mpr (specialEscape_ne_nil d)
      rw [← hfront, List.length_append]
      omega
    obtain ⟨cs, hcs⟩ := h.of_append.exists_escapeSpecial
    exact ⟨d :: cs, by rw [escapeSpecial, List.flatMap_cons, ← escapeSpecial, hcs, hfront]⟩
termination_by text.length
decreasing_by exact hshorter

/-- Escaping gives the escaped texts, and all of them. -/
theorem isEscaped_iff {text : List Char} : IsEscaped text ↔ ∃ cs, escapeSpecial cs = text := by
  constructor
  · exact IsEscaped.exists_escapeSpecial
  · rintro ⟨cs, rfl⟩
    induction cs with
    | nil => exact isEscaped_nil
    | cons c cs ih => exact ih.append c

end Text

end Folio.Text
