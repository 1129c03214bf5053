/-!
# Taking entries in

A section is built by taking its entries in one after the other: each is read on its own, and what
it says is put into what has been built so far. Nothing is built if one entry cannot be read, and
what is put under a key holds until something else is put under it. So the first entry that cannot
be read is the error, and the last entry with a key decides what the key stands for.
-/

namespace Folio.Config

variable {α β σ κ γ ε : Type}

section Order

variable {p : α → Prop} {entries : List α} {entry : α}

/-- The last of the entries that are such. -/
def IsLastOf (p : α → Prop) (entries : List α) (entry : α) : Prop :=
  ∃ before after, entries = before ++ entry :: after ∧ p entry ∧ ∀ other ∈ after, ¬ p other

theorem IsLastOf.mem (h : IsLastOf p entries entry) : entry ∈ entries := by
  obtain ⟨before, after, rfl, -⟩ := h
  exact List.mem_append_right _ List.mem_cons_self

theorem IsLastOf.holds (h : IsLastOf p entries entry) : p entry := by
  obtain ⟨-, -, -, hp, -⟩ := h
  exact hp

/-- Only what is asked of the entries themselves counts. -/
theorem IsLastOf.congr {q : α → Prop} (h : IsLastOf p entries entry)
    (hiff : ∀ other ∈ entries, p other ↔ q other) : IsLastOf q entries entry := by
  obtain ⟨before, after, rfl, hp, hafter⟩ := h
  rw [List.forall_mem_append, List.forall_mem_cons] at hiff
  exact ⟨before, after, rfl, hiff.2.1.mp hp,
    fun other hmem hq => hafter other hmem ((hiff.2.2 other hmem).mpr hq)⟩

end Order

section Reading

variable {read : α → Except ε β} {put : σ → β → σ} {init built : σ} {entries : List α}

end Reading

section Keys

variable {read : α → Except ε β} {put : σ → β → σ} {init built : σ}
  {entries : List α} {key : β → κ} {value : β → γ} {get : σ → κ → γ} {asked : κ}

section Put

variable [DecidableEq κ] (hput : ∀ built said asked,
  get (put built said) asked = if key said = asked then value said else get built asked)
include hput

end Put

end Keys

end Folio.Config
