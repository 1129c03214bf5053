import Folio.Proofs.Anchor.Issued

/-!
# Runs of the counter

A counter hands out ids to contents one after the other. Each id is the slug with the number of
headings with it before; a run raises the number of each slug by its occurrences; and two ids of a
run are the same text only if one is a plain slug that spells the other one with its number.
-/

namespace Folio.Anchor

/-- The ids that contents get one after the other, and the counter behind them. -/
def issueAll (counter : Counter) : List (List Char) → List (List Char) × Counter
  | [] => ([], counter)
  | content :: rest =>
    let first := issue counter content
    let others := issueAll first.2 rest
    (first.1 :: others.1, others.2)

section Counts

variable (counter : Counter) (contents : List (List Char))

/-- A run raises the number of each slug by its occurrences. -/
theorem count_issueAll (key : List Char) :
    (issueAll counter contents).2.count key =
      counter.count key + (contents.map slug).count key := by
  induction contents generalizing counter with
  | nil => simp [issueAll]
  | cons content rest ih =>
    have hbases : (content :: rest).map slug = [slug content] ++ rest.map slug := rfl
    rw [issueAll, ih, count_issue, hbases, List.count_append]
    push_cast
    omega

/-- Handing out an id makes an entry for its slug and leaves all others as they are. -/
theorem lookup_issue (content key : List Char) :
    (issue counter content).2.entries.lookup key =
      if key = slug content then some (counter.count key + 1)
      else counter.entries.lookup key := by
  have hset : (issue counter content).2 =
      counter.set (slug content) (counter.count (slug content) + 1) := rfl
  rw [hset, Counter.lookup_set]
  by_cases h : key = slug content
  · rw [if_pos h, if_pos h, h]
  · rw [if_neg h, if_neg h]

/-- Behind a run there are entries for its slugs, and all others are as before. -/
theorem lookup_issueAll (key : List Char) :
    (issueAll counter contents).2.entries.lookup key =
      if key ∈ contents.map slug then
        some (counter.count key + (contents.map slug).count key)
      else counter.entries.lookup key := by
  induction contents generalizing counter with
  | nil => rfl
  | cons content rest ih =>
    have hcount : ([slug content] ++ rest.map slug).count key =
        [slug content].count key + (rest.map slug).count key := List.count_append
    rw [List.singleton_append] at hcount
    rw [issueAll, ih, count_issue, lookup_issue, List.map_cons, hcount]
    by_cases hrest : key ∈ rest.map slug
    · have hmem : key ∈ slug content :: rest.map slug := List.mem_cons_of_mem _ hrest
      rw [if_pos hrest, if_pos hmem]
      push_cast
      rw [Int.add_assoc]
    · rw [if_neg hrest]
      by_cases h : key = slug content
      · have hmem : key ∈ slug content :: rest.map slug := List.mem_cons.mpr (Or.inl h)
        rw [if_pos h, if_pos hmem, List.count_eq_zero_of_not_mem hrest, ← h,
          List.count_singleton_self]
        rfl
      · have hnot : key ∉ slug content :: rest.map slug := by
          rw [List.mem_cons, not_or]
          exact ⟨h, hrest⟩
        rw [if_neg h, if_neg hnot]

theorem length_issueAll : (issueAll counter contents).1.length = contents.length := by
  induction contents generalizing counter with
  | nil => rfl
  | cons content rest ih => rw [issueAll, List.length_cons, ih, List.length_cons]

/-- The id of a content depends on the contents before it through the counter only. -/
theorem getElem?_issueAll {i : Nat} {base : List Char}
    (h : (contents.map slug)[i]? = some base) :
    (issueAll counter contents).1[i]? =
      some (numbered base (counter.count base + ((contents.map slug).take i).count base)) := by
  induction contents generalizing counter i with
  | nil => exact absurd h (by simp)
  | cons content rest ih =>
    cases i with
    | zero =>
      rw [List.map_cons, List.getElem?_cons_zero] at h
      rw [← Option.some.inj h]
      simp [issueAll, issue]
    | succ i =>
      rw [List.map_cons, List.getElem?_cons_succ] at h
      have htake : ((content :: rest).map slug).take (i + 1) =
          [slug content] ++ (rest.map slug).take i := rfl
      rw [issueAll, List.getElem?_cons_succ, ih _ h, count_issue, htake, List.count_append]
      push_cast
      rw [Int.add_assoc]

end Counts

section Places

variable {bases : List (List Char)} {i j : Nat} {base : List Char}

/-- One slug at two places has come before the later one more often. -/
private theorem count_take_lt (hij : i < j) (hi : bases[i]? = some base) :
    (bases.take i).count base < (bases.take j).count base := by
  have hprefix : bases.take (i + 1) <+: bases.take j := List.take_prefix_take_left hij
  have hone : (bases.take (i + 1)).count base = (bases.take i).count base + 1 := by
    rw [List.take_add_one, hi, List.count_append]
    simp
  have hle := hprefix.sublist.count_le base
  omega

/-- At different places a slug has different numbers. -/
theorem count_take_ne (hij : i ≠ j) (hi : bases[i]? = some base) (hj : bases[j]? = some base) :
    (bases.take i).count base ≠ (bases.take j).count base := by
  rcases Nat.lt_or_gt_of_ne hij with hlt | hgt
  · exact Nat.ne_of_lt (count_take_lt hlt hi)
  · exact Nat.ne_of_gt (count_take_lt hgt hj)

end Places

/-- What a counter without negative numbers does with contents that come one after the other. The
id of each is its slug, behind which its number stands unless it is zero. The counter behind them
has raised the number of each slug by its occurrences and nothing else. Two ids are the same exactly
if their slugs differ and one of them, without a number, spells the other one with its number. -/
theorem issueAll_law (counter : Counter) (hcounter : ∀ key, 0 ≤ counter.count key)
    (contents : List (List Char)) :
    let bases := contents.map slug
    let number (i : Nat) (base : List Char) : Nat :=
      (counter.count base).toNat + (bases.take i).count base
    let run := issueAll counter contents
    run.1.length = contents.length ∧
    (∀ i base, bases[i]? = some base → run.1[i]? =
      some (if number i base = 0 then base
        else base ++ '-' :: Nat.toDigits 10 (number i base))) ∧
    (∀ key, run.2.entries.lookup key =
      if key ∈ bases then some (counter.count key + bases.count key)
      else counter.entries.lookup key) ∧
    (∀ key, counter.count key ≤ run.2.count key) ∧
    ∀ i j base other, i ≠ j → bases[i]? = some base → bases[j]? = some other →
      (run.1[i]? = run.1[j]? ↔
        base ≠ other ∧
        ((number i base = 0 ∧ number j other ≠ 0 ∧
            base = other ++ '-' :: Nat.toDigits 10 (number j other)) ∨
          (number j other = 0 ∧ number i base ≠ 0 ∧
            other = base ++ '-' :: Nat.toDigits 10 (number i base)))) := by
  intro bases number run
  have hid : ∀ i base, bases[i]? = some base →
      run.1[i]? = some (numbered base (number i base)) := by
    intro i base hbase
    have hcast : ((number i base : Nat) : Int) =
        counter.count base + ((bases.take i).count base : Nat) := by
      have htoNat := Int.toNat_of_nonneg (hcounter base)
      push_cast [number]
      rw [htoNat]
    rw [hcast]
    exact getElem?_issueAll counter contents hbase
  refine ⟨length_issueAll counter contents, ?_, lookup_issueAll counter contents, ?_, ?_⟩
  · intro i base hbase
    rw [hid i base hbase]
    split
    · rename_i hzero
      rw [hzero, Int.ofNat_zero, numbered_zero]
    · rename_i hnumber
      rw [numbered_of_ne_zero base hnumber]
  · intro key
    rw [count_issueAll]
    omega
  · intro i j base other hij hi hj
    rw [hid i base hi, hid j other hj, Option.some_inj, numbered_eq_numbered_iff]
    constructor
    · rintro (⟨rfl, hnumber⟩ | ⟨hzero, hnumber, hspelled⟩ | ⟨hzero, hnumber, hspelled⟩)
      · -- one slug has different numbers at different places
        have hcount := count_take_ne hij hi hj
        simp only [number] at hnumber
        omega
      · refine ⟨?_, Or.inl ⟨hzero, hnumber, hspelled⟩⟩
        rw [hspelled]
        simp
      · refine ⟨?_, Or.inr ⟨hzero, hnumber, hspelled⟩⟩
        rw [hspelled]
        simp
    · rintro ⟨-, hspelled⟩
      exact Or.inr hspelled

/-- A counter that has seen a slug twice, and a heading that spells the slug with its number. -/
theorem issueAll_law_spelled :
    let counter : Counter := ⟨[("a".toList, 2), ("b".toList, 7)]⟩
    let run := issueAll counter ["A".toList, "A 2".toList, "A".toList]
    (∀ key, 0 ≤ counter.count key) ∧
    run.1 = ["a-2".toList, "a-2".toList, "a-3".toList] ∧
    run.2.entries.lookup "a".toList = some 4 ∧ run.2.entries.lookup "b".toList = some 7 ∧
    run.1[0]? = run.1[1]? ∧ run.1[0]? ≠ run.1[2]? := by
  intro counter run
  have hcounter : ∀ key, 0 ≤ counter.count key := by
    intro key
    rw [Counter.count]
    cases hlookup : counter.entries.lookup key with
    | none => exact Int.le_refl 0
    | some n =>
      obtain ⟨front, rest, hentries, -⟩ := List.lookup_eq_some_iff.mp hlookup
      have hmem : (key, n) ∈ counter.entries := by
        rw [hentries]
        exact List.mem_append_right _ List.mem_cons_self
      simp only [counter, List.mem_cons, Prod.mk.injEq, List.not_mem_nil, or_false] at hmem
      rcases hmem with ⟨-, rfl⟩ | ⟨-, rfl⟩ <;> decide
  obtain ⟨-, -, hlookup, -, hsame⟩ :=
    issueAll_law counter hcounter ["A".toList, "A 2".toList, "A".toList]
  refine ⟨hcounter, by decide +kernel, ?_, ?_, ?_, ?_⟩
  · rw [hlookup]
    decide +kernel
  · rw [hlookup]
    decide +kernel
  · exact (hsame 0 1 "a".toList "a-2".toList (by decide) (by decide +kernel)
      (by decide +kernel)).mpr (by decide +kernel)
  · rw [ne_eq, hsame 0 2 "a".toList "a".toList (by decide) (by decide +kernel) (by decide +kernel)]
    exact fun h => h.1 rfl

end Folio.Anchor
