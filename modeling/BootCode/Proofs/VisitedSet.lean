import Mathlib
import BootCode.Machine.History
/-!
# The visited positions as a finite set

A history started for `n` instructions and then marked at any sequence of positions behaves as
a finite set of positions: a position is in it exactly when it lies in `[0, n)` and is 0 or was
marked, marking answers yes exactly for a position of `[0, n)` not in it yet, and the count is
the number of its members, at most `n`, and 0 exactly when `n` is 0.
-/

namespace BootCode.History

/-- From the start, the flags list whether each index is 0 or was marked. -/
theorem toList_insertAll_start (n : Nat) (xs : List Int) :
    ((start n).insertAll xs).visited.toList =
      (List.range n).map fun i : Nat => decide (i = 0 ∨ (i : Int) ∈ xs) := by
  apply List.ext_getElem?
  intro i
  rw [Array.getElem?_toList, getElem?_insertAll_start, List.getElem?_map]
  by_cases hi : i < n
  · rw [if_pos hi, List.getElem?_range hi]
    rfl
  · rw [if_neg hi, List.getElem?_eq_none (by simp; omega)]
    rfl

/-- From the start, the count is the number of indices that are 0 or were marked. -/
theorem count_insertAll_start (n : Nat) (xs : List Int) :
    ((start n).insertAll xs).count =
      ((List.range n).filter fun i : Nat => decide (i = 0 ∨ (i : Int) ∈ xs)).length := by
  unfold count
  rw [← Array.count_toList, toList_insertAll_start, List.count_eq_countP, List.countP_map,
    List.countP_eq_length_filter]
  congr 1
  apply List.filter_congr
  intro x _
  simp

/-- Counting the members of a range that pass a test, as a finite set or along the list. -/
theorem card_range_filter (n : Nat) (P : Nat → Bool) :
    ((Finset.range n).filter fun i => P i = true).card = ((List.range n).filter P).length := by
  rw [Finset.card_def, Finset.filter_val, Finset.range_val, Multiset.range]
  simp [Multiset.filter_coe]

/-- The visited positions of `[0, n)`, counted as integers, are the indices that are 0 or were
marked. -/
theorem card_filter_contains_insertAll_start (n : Nat) (xs : List Int) :
    ((Finset.Ico (0 : Int) n).filter fun x => ((start n).insertAll xs).contains x = true).card =
      ((List.range n).filter fun i : Nat => decide (i = 0 ∨ (i : Int) ∈ xs)).length := by
  rw [← card_range_filter, ← Finset.card_map (Nat.castEmbedding (R := Int))]
  congr 1
  ext x
  simp only [Finset.mem_filter, Finset.mem_Ico, Finset.mem_map, Finset.mem_range,
    Nat.castEmbedding_apply, contains_insertAll_start_iff, decide_eq_true_eq]
  constructor
  · intro ⟨⟨h0, hn⟩, _, _, hm⟩
    refine ⟨x.toNat, ⟨by omega, ?_⟩, by omega⟩
    rcases hm with hz | hm
    · left; omega
    · right; rw [Int.toNat_of_nonneg h0]; exact hm
  · intro ⟨i, ⟨hi, hm⟩, e⟩
    subst e
    refine ⟨⟨by omega, by omega⟩, by omega, by omega, ?_⟩
    rcases hm with hz | hm
    · left; omega
    · right; exact hm

/-- A history started for `n` instructions and marked at `xs` is the set of positions of
`[0, n)` that are 0 or in `xs`: membership, the answer of a further mark and the count all
agree with that set. -/
theorem insertAll_start_visited_set (n : Nat) (xs : List Int) :
    (∀ x : Int, ((start n).insertAll xs).contains x = true ↔
      0 ≤ x ∧ x < n ∧ (x = 0 ∨ x ∈ xs)) ∧
    (∀ x : Int, (((start n).insertAll xs).insert x).1 = true ↔
      0 ≤ x ∧ x < n ∧ ((start n).insertAll xs).contains x = false) ∧
    ((start n).insertAll xs).count =
      ((Finset.Ico (0 : Int) n).filter fun x => ((start n).insertAll xs).contains x = true).card ∧
    ((start n).insertAll xs).count ≤ n ∧
    (((start n).insertAll xs).count = 0 ↔ n = 0) := by
  refine ⟨contains_insertAll_start_iff n xs, ?_, ?_, ?_, ?_⟩
  · intro x
    rw [insert_fst_iff, size_insertAll, size_start]
  · rw [card_filter_contains_insertAll_start, count_insertAll_start]
  · rw [count_insertAll_start]
    calc _ ≤ (List.range n).length := List.length_filter_le _ _
      _ = n := List.length_range
  · rw [count_insertAll_start, List.length_eq_zero_iff, List.filter_eq_nil_iff]
    constructor
    · intro hall
      by_contra hn
      have := hall 0 (List.mem_range.2 (by omega))
      simp at this
    · intro hn
      subst hn
      simp

-- ---------------------------------------------------------------------------
-- One mark at a time
-- ---------------------------------------------------------------------------

/-- Marking a position adds it to the visited ones when it is inside the program. -/
theorem contains_insert (h : History) (p x : Int) :
    (h.insert p).2.contains x = true ↔
      h.contains x = true ∨ (x = p ∧ 0 ≤ p ∧ p < h.visited.size) := by
  rw [contains_iff, contains_iff]
  constructor
  · rintro ⟨i, rfl, hv⟩
    rw [getElem?_insert] at hv
    split at hv
    · right
      omega
    · exact Or.inl ⟨i, rfl, hv⟩
  · rintro (⟨i, rfl, hv⟩ | ⟨rfl, h0, hlt⟩)
    · refine ⟨i, rfl, ?_⟩
      rw [getElem?_insert]
      split <;> simp_all
    · refine ⟨x.toNat, by omega, ?_⟩
      rw [getElem?_insert, if_pos ⟨by omega, by omega⟩]

/-- Marking counts one more exactly when it answers yes. -/
theorem count_insert (h : History) (p : Int) :
    (h.insert p).2.count = h.count + if (h.insert p).1 then 1 else 0 := by
  unfold insert count
  cases hs : h.slot? p with
  | none => simp
  | some i =>
    obtain ⟨-, lt⟩ := (slot?_eq_some_iff h p i).1 hs
    simp only [Array.setIfInBounds, lt, dite_true, Array.count_set lt, Array.getElem?_eq_getElem lt,
      Option.getD_some]
    cases hv : h.visited[i] with
    | true =>
      -- the flag was already set, so it is counted and stays counted
      have hle := Array.boole_getElem_le_count (a := true) lt
      simp only [hv, BEq.rfl, if_true] at hle
      simp
      omega
    | false => simp

/-- Before anything runs, the count is 1 for a program with an instruction and 0 for the
empty one. -/
theorem count_start (n : Nat) : (start n).count = if 0 < n then 1 else 0 := by
  have h := count_insertAll_start n []
  simp only [insertAll, List.not_mem_nil, or_false] at h
  rw [h]
  cases n with
  | zero => rfl
  | succ n =>
    rw [List.range_succ_eq_map, List.filter_cons_of_pos (by simp), List.length_cons,
      List.filter_map, List.length_map, List.filter_eq_nil_iff.2 (by simp)]
    rfl

end BootCode.History
