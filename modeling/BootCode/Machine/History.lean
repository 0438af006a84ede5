import BootCode.Instruction
/-!
# Visited positions

The positions a run has visited, as one flag per instruction of the program. Position 0 is
marked before anything runs, when the program has an instruction at all; positions outside the
program are never marked, and asking for one answers no.
-/

namespace BootCode

/-- One flag per instruction: whether its position has been visited. -/
structure History where
  visited : Array Bool
  deriving DecidableEq, Repr

namespace History

/-- The history of a program of `len` instructions before anything runs: position 0 alone is
marked, if there is one. -/
def start (len : Nat) : History :=
  ⟨(Array.replicate len false).setIfInBounds 0 true⟩

/-- The flag index of a position, when it is inside the program. -/
def slot? (h : History) (position : Int) : Option Nat :=
  if 0 ≤ position ∧ position < h.visited.size then some position.toNat else none

/-- Whether a position is marked; positions outside the program are not. -/
def contains (h : History) (position : Int) : Bool :=
  match h.slot? position with
  | some i => h.visited[i]?.getD false
  | none => false

/-- Marks a position. The answer is whether it is inside the program and was not marked
before; positions outside the program leave the history as it is. -/
def insert (h : History) (position : Int) : Bool × History :=
  match h.slot? position with
  | some i => (!(h.visited[i]?.getD false), ⟨h.visited.setIfInBounds i true⟩)
  | none => (false, h)

/-- How many positions are marked. -/
def count (h : History) : Nat :=
  h.visited.count true

/-- The marked positions, in ascending order. -/
def toList (h : History) : List Nat :=
  (List.range h.visited.size).filter fun i => h.visited[i]?.getD false

/-- Marks positions one after another. -/
def insertAll (h : History) : List Int → History
  | [] => h
  | x :: xs => (h.insert x).2.insertAll xs

theorem size_start (len : Nat) : (start len).visited.size = len := by
  simp [start]

-- ---------------------------------------------------------------------------
-- Laws
-- ---------------------------------------------------------------------------

/-- A position has a flag exactly when it is a natural number below the size. -/
theorem slot?_eq_some_iff (h : History) (p : Int) (i : Nat) :
    h.slot? p = some i ↔ p = i ∧ i < h.visited.size := by
  unfold slot?
  split
  · constructor
    · intro e
      cases e
      omega
    · intro ⟨e, _⟩
      subst e
      simp
  · constructor
    · intro e
      cases e
    · intro ⟨e, lt⟩
      omega

/-- Before anything runs, position 0 alone is marked. -/
theorem getElem?_start (n i : Nat) :
    (start n).visited[i]? = if i < n then some (decide (i = 0)) else none := by
  unfold start
  rw [Array.getElem?_setIfInBounds]
  by_cases h0 : i = 0
  · subst h0
    by_cases hn : 0 < n <;> simp [hn]
  · have : ¬ (0 = i) := fun e => h0 e.symm
    simp only [this, if_false, Array.getElem?_replicate]
    split <;> simp_all

/-- Marking keeps the number of flags. -/
theorem size_insert (h : History) (p : Int) : (h.insert p).2.visited.size = h.visited.size := by
  unfold insert
  split <;> simp

/-- Marking sets the flag of the position, if it has one, and no other. -/
theorem getElem?_insert (h : History) (p : Int) (i : Nat) :
    (h.insert p).2.visited[i]? = if p = i ∧ i < h.visited.size then some true else h.visited[i]? := by
  unfold insert
  cases hs : h.slot? p with
  | none =>
    simp only
    split
    · rename_i c
      have := (slot?_eq_some_iff h p i).2 c
      rw [hs] at this
      cases this
    · rfl
  | some j =>
    obtain ⟨e, lt⟩ := (slot?_eq_some_iff h p j).1 hs
    simp only [Array.getElem?_setIfInBounds]
    by_cases hij : j = i
    · subst hij
      simp [e, lt]
    · have : ¬ (p = i ∧ i < h.visited.size) := by omega
      simp [hij, this]

theorem size_insertAll (h : History) (xs : List Int) :
    (h.insertAll xs).visited.size = h.visited.size := by
  induction xs generalizing h with
  | nil => rfl
  | cons x xs ih => simp [insertAll, ih, size_insert]

/-- After a sequence of marks, a flag is set when it was set before or its position was marked. -/
theorem getElem?_insertAll (h : History) (xs : List Int) (i : Nat) :
    (h.insertAll xs).visited[i]? =
      if (i : Int) ∈ xs ∧ i < h.visited.size then some true else h.visited[i]? := by
  induction xs generalizing h with
  | nil => simp [insertAll]
  | cons x xs ih =>
    simp only [insertAll, ih, size_insert, getElem?_insert, List.mem_cons]
    by_cases hi : i < h.visited.size
    · by_cases hx : x = i <;> by_cases hm : (i : Int) ∈ xs <;> simp [hi, hx, hm, eq_comm]
    · simp [hi]

/-- From the start, a flag is set exactly for position 0 and the positions marked. -/
theorem getElem?_insertAll_start (n : Nat) (xs : List Int) (i : Nat) :
    ((start n).insertAll xs).visited[i]? =
      if i < n then some (decide (i = 0 ∨ (i : Int) ∈ xs)) else none := by
  rw [getElem?_insertAll, getElem?_start, size_start]
  by_cases hi : i < n <;> by_cases hm : (i : Int) ∈ xs <;> simp [hi, hm]

/-- A position is visited exactly when it is the index of a set flag. -/
theorem contains_iff (h : History) (p : Int) :
    h.contains p = true ↔ ∃ i : Nat, p = i ∧ h.visited[i]? = some true := by
  unfold contains
  cases hs : h.slot? p with
  | none =>
    simp only [Bool.false_eq_true, false_iff, not_exists, not_and]
    intro i e hv
    have hi : i < h.visited.size := by
      rcases Array.getElem?_eq_some_iff.1 hv with ⟨lt, _⟩
      exact lt
    have := (slot?_eq_some_iff h p i).2 ⟨e, hi⟩
    rw [hs] at this
    cases this
  | some i =>
    obtain ⟨e, lt⟩ := (slot?_eq_some_iff h p i).1 hs
    constructor
    · intro hv
      refine ⟨i, e, ?_⟩
      cases hg : h.visited[i]? with
      | none => simp [hg] at hv
      | some b => simp [hg] at hv; simp [hv]
    · intro ⟨j, e', hv⟩
      have : j = i := by omega
      subst this
      simp [hv]

/-- From the start, the visited positions are those inside the program that are 0 or were
marked. -/
theorem contains_insertAll_start_iff (n : Nat) (xs : List Int) (p : Int) :
    ((start n).insertAll xs).contains p = true ↔ 0 ≤ p ∧ p < n ∧ (p = 0 ∨ p ∈ xs) := by
  rw [contains_iff]
  constructor
  · intro ⟨i, e, hv⟩
    subst e
    rw [getElem?_insertAll_start] at hv
    by_cases hi : i < n
    · simp only [hi, if_true, Option.some.injEq, decide_eq_true_eq] at hv
      refine ⟨by omega, by omega, ?_⟩
      rcases hv with h0 | hm
      · left; omega
      · right; exact hm
    · simp [hi] at hv
  · intro ⟨h0, hn, hm⟩
    refine ⟨p.toNat, by omega, ?_⟩
    rw [getElem?_insertAll_start]
    have hi : p.toNat < n := by omega
    have hc : (p.toNat : Int) = p := by omega
    simp only [hi, if_true, Option.some.injEq, decide_eq_true_eq, hc]
    rcases hm with h0 | hm
    · left; omega
    · right; exact hm

/-- Marking answers yes exactly for a position inside the program not visited before. -/
theorem insert_fst_iff (h : History) (p : Int) :
    (h.insert p).1 = true ↔ 0 ≤ p ∧ p < h.visited.size ∧ h.contains p = false := by
  unfold insert contains
  cases hs : h.slot? p with
  | none =>
    simp only [Bool.false_eq_true, false_iff, not_and]
    intro h0 hlt
    have := (slot?_eq_some_iff h p p.toNat).2 ⟨by omega, by omega⟩
    rw [hs] at this
    cases this
  | some j =>
    obtain ⟨e, lt⟩ := (slot?_eq_some_iff h p j).1 hs
    simp only [Bool.not_eq_eq_eq_not, Bool.not_true]
    constructor
    · intro hv
      exact ⟨by omega, by omega, hv⟩
    · intro ⟨_, _, hv⟩
      exact hv

end History

end BootCode
