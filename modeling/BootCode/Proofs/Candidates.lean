import BootCode.Proofs.Repair
/-!
# The flip candidates of a program

A candidate flips one `nop` into a `jmp` or one `jmp` into a `nop`, keeping the argument.
Flipping at an index copies the program and patches the copy. Here it is shown to fail, with a
fault that names the index, exactly past the end of the program and at an `acc`, and to be the
plain replacement of the instruction by its flip everywhere else. The candidates are then one
success per `nop` and `jmp`, in ascending order of index; each is a program of the same length
that differs from the original at its index alone and gives the original back when flipped
there again (`Program.candidates_flip_each_mutable`).
-/

namespace BootCode

namespace Program

variable {p q : Program}

-- ---------------------------------------------------------------------------
-- Replacing an instruction
-- ---------------------------------------------------------------------------

/-- Putting the old instruction back undoes a replacement. -/
theorem replace?_restore {i : Nat} {x y : Instruction} (hx : p.get? i = some x)
    (hq : p.replace? i y = some q) : q.replace? i x = some p := by
  have hlt : i < q.size := by
    rw [size_replace? hq]
    exact lt_size_of_get? hx
  have hr : q.replace? i x = some ⟨q.instructions.set i x hlt⟩ := by
    unfold replace?
    rw [dif_pos hlt]
  rw [hr, Option.some.injEq]
  apply ext_get?
  intro j
  rw [get?_replace? hr, get?_replace? hq]
  by_cases hij : i = j
  · subst hij
    simp [hx]
  · simp [hij]

/-- A replacement by a different instruction differs from the program at its index alone. -/
theorem get?_replace?_eq_iff {i : Nat} {x y : Instruction} (hx : p.get? i = some x)
    (hxy : y ≠ x) (hq : p.replace? i y = some q) (j : Nat) : q.get? j = p.get? j ↔ j ≠ i := by
  rw [get?_replace? hq]
  by_cases hij : i = j
  · subst hij
    simpa [hx] using hxy
  · simp [hij, Ne.symm hij]

-- ---------------------------------------------------------------------------
-- Flipping at an index
-- ---------------------------------------------------------------------------

/-- Flipping past the end fails with a fault that names the index. -/
theorem flipAt_of_size_le {i : Nat} (h : p.size ≤ i) :
    p.flipAt i = .error (.unflippable (some i)
      ("<index " ++ toString i ++ " out of " ++ toString p.size ++ ">")) := by
  unfold flipAt
  rw [dif_neg (by omega)]

/-- Flipping an instruction without a flip fails with a fault that names the index and the
instruction. -/
theorem flipAt_of_flip?_none {i : Nat} {x : Instruction} (hx : p.get? i = some x)
    (hy : x.flip? = none) : p.flipAt i = .error (.unflippable (some i) x.render) := by
  have hlt : i < p.size := lt_size_of_get? hx
  unfold flipAt
  rw [dif_pos hlt]
  -- the flip reads the instruction under the bound `p.size`, so `x` is matched by its value
  have e := Array.getElem?_eq_getElem (show i < p.instructions.size from hlt)
  rw [show p.instructions[i]? = p.get? i from rfl, hx, Option.some.injEq] at e
  subst e
  dsimp only
  split
  · rename_i y hy'
    cases hy'.symm.trans hy
  · rfl

/-- Flipping at an index fails, with a fault that names the index, exactly past the end and at
an `acc`. -/
theorem flipAt_eq_unflippable_iff (j : Nat) :
    (∃ s, p.flipAt j = .error (.unflippable (some j) s)) ↔
      p.size ≤ j ∨ ∃ a, p.get? j = some ⟨.acc, a⟩ := by
  cases hx : p.get? j with
  | none =>
    have hle : p.size ≤ j := (get?_eq_none_iff p j).1 hx
    exact iff_of_true ⟨_, flipAt_of_size_le hle⟩ (.inl hle)
  | some x =>
    have hlt : j < p.size := lt_size_of_get? hx
    rcases x with ⟨op, a⟩
    cases op with
    | acc => exact iff_of_true ⟨_, flipAt_of_flip?_none hx rfl⟩ (.inr ⟨a, rfl⟩)
    | nop | jmp =>
      obtain ⟨q, -, hflip⟩ := flipAt_of_flip? hx rfl
      refine iff_of_false (fun ⟨s, hs⟩ => ?_) ?_
      · rw [hflip] at hs
        cases hs
      · rintro (hle | ⟨b, hb⟩)
        · omega
        · cases hb

/-- A successful flip is the replacement of an instruction that has a flip by that flip. -/
theorem eq_of_flipAt_eq_ok {j : Nat} {c : Candidate} (h : p.flipAt j = .ok c) :
    ∃ x y, p.get? j = some x ∧ x.flip? = some y ∧ p.replace? j y = some c.program ∧
      c = ⟨j, x, y, c.program⟩ := by
  cases hx : p.get? j with
  | none =>
    rw [flipAt_of_size_le ((get?_eq_none_iff p j).1 hx)] at h
    cases h
  | some x =>
    cases hy : x.flip? with
    | none =>
      rw [flipAt_of_flip?_none hx hy] at h
      cases h
    | some y =>
      obtain ⟨q, hq, hflip⟩ := flipAt_of_flip? hx hy
      rw [hflip] at h
      cases h
      exact ⟨x, y, rfl, hy, hq, rfl⟩

/-- Flipping the replaced instruction of a flipped program back gives the program again. -/
theorem flipAt_replace?_flip {i : Nat} {x y : Instruction} (hx : p.get? i = some x)
    (hy : x.flip? = some y) (hq : p.replace? i y = some q) :
    ∃ c, q.flipAt i = .ok c ∧ c.program = p := by
  have hqy : q.get? i = some y := by simp [get?_replace? hq]
  obtain ⟨r, hr, hflip⟩ := flipAt_of_flip? hqy (Instruction.flip?_flip? hy)
  rw [replace?_restore hx hq, Option.some.injEq] at hr
  exact ⟨_, hflip, hr.symm⟩

-- ---------------------------------------------------------------------------
-- The candidates
-- ---------------------------------------------------------------------------

/-- The `nop` and `jmp` among the first `n` instructions, counted by index and by
instruction. -/
theorem length_filter_range (p : Program) (n : Nat) :
    ((List.range n).filter fun i => (p.get? i).any Instruction.isMutable).length =
      (p.instructions.toList.take n).countP Instruction.isMutable := by
  induction n with
  | zero => simp
  | succ n ih =>
    rw [List.range_succ, List.filter_append, List.length_append, ih, List.take_add_one,
      List.countP_append, Array.getElem?_toList]
    cases hx : p.get? n with
    | none =>
      have hx' : p.instructions[n]? = none := hx
      simp [hx, hx']
    | some x =>
      have hx' : p.instructions[n]? = some x := hx
      by_cases hm : x.isMutable <;> simp [hx, hx', hm]

theorem length_mutableIndices (p : Program) :
    p.mutableIndices.length = p.instructions.toList.countP fun x => x.op ≠ .acc := by
  rw [mutableIndices, length_filter_range, size, ← Array.length_toList, List.take_length]
  exact List.countP_congr fun x _ => by simp [Instruction.isMutable_eq_true_iff]

theorem pairwise_mutableIndices (p : Program) : p.mutableIndices.Pairwise (· < ·) :=
  List.pairwise_lt_range.filter _

/-- Flipping at candidate indices succeeds at each, in the order of the indices. -/
theorem map_flipAt_of_mem {is : List Nat} (h : ∀ i ∈ is, i ∈ p.mutableIndices) :
    ∃ cs : List Candidate, is.map p.flipAt = cs.map .ok ∧ cs.map Candidate.index = is ∧
      ∀ c ∈ cs, p.flipAt c.index = .ok c := by
  induction is with
  | nil => exact ⟨[], rfl, rfl, by simp⟩
  | cons i is ih =>
    obtain ⟨cs, hmap, hidx, hok⟩ := ih fun j hj => h j (List.mem_cons_of_mem i hj)
    obtain ⟨x, y, q, -, -, -, hflip⟩ := flipAt_of_mem (h i List.mem_cons_self)
    refine ⟨⟨i, x, y, q⟩ :: cs, by simp [hmap, hflip], by simp [hidx], ?_⟩
    intro c hc
    rcases List.mem_cons.1 hc with rfl | hc
    · exact hflip
    · exact hok c hc

/-- The candidates of a program are one successful flip per `nop` and `jmp`, in ascending order
of index. Each is the program with that instruction replaced by its flip, which keeps the
argument and swaps the operation: a program of the same length that differs from the original
at that index alone, and flipping it there again gives the original back. Flipping at an index
fails, with a fault that names the index, exactly past the end and at an `acc`; everywhere else
it is the plain replacement by the flip. -/
theorem candidates_flip_each_mutable (p : Program) :
    (∃ cs : List Candidate, p.candidates = cs.map .ok ∧ cs.length = p.candidateCount ∧
      p.candidateCount = p.instructions.toList.countP (fun x => x.op ≠ .acc) ∧
      (cs.map Candidate.index).Pairwise (· < ·) ∧
      (∀ i, i ∈ cs.map Candidate.index ↔ ∃ x, p.get? i = some x ∧ x.op ≠ .acc) ∧
      ∀ c ∈ cs, ∃ x y, p.get? c.index = some x ∧ x.flip = .ok y ∧ y.arg = x.arg ∧
        (x.op = .nop ∧ y.op = .jmp ∨ x.op = .jmp ∧ y.op = .nop) ∧
        c.before = x ∧ c.after = y ∧ p.replace? c.index y = some c.program ∧
        c.program.size = p.size ∧ (∀ j, c.program.get? j = p.get? j ↔ j ≠ c.index) ∧
        ∃ c', c.program.flipAt c.index = .ok c' ∧ c'.program = p) ∧
    (∀ j, (∃ s, p.flipAt j = .error (.unflippable (some j) s)) ↔
      p.size ≤ j ∨ ∃ a, p.get? j = some ⟨.acc, a⟩) ∧
    (∀ j x, p.get? j = some x → x.op ≠ .acc →
      ∃ y q, x.flip = .ok y ∧ p.replace? j y = some q ∧ p.flipAt j = .ok ⟨j, x, y, q⟩) := by
  obtain ⟨cs, hmap, hidx, hok⟩ := map_flipAt_of_mem (p := p) fun _ hi => hi
  refine ⟨⟨cs, hmap, ?_, length_mutableIndices p, ?_, fun i => ?_, fun c hc => ?_⟩,
    flipAt_eq_unflippable_iff, fun j x hx hacc => ?_⟩
  · rw [candidateCount, ← hidx, List.length_map]
  · rw [hidx]
    exact pairwise_mutableIndices p
  · simp only [hidx, mem_mutableIndices, Instruction.isMutable_eq_true_iff]
  · -- each candidate is the replacement of its instruction by the flip
    obtain ⟨x, y, hx, hy, hq, hc⟩ := eq_of_flipAt_eq_ok (hok c hc)
    obtain ⟨harg, hops⟩ := (Instruction.flip?_eq_some_iff x y).1 hy
    refine ⟨x, y, hx, (Instruction.flip_eq_ok_iff x y).2 hy, harg, hops, by rw [hc], by rw [hc],
      hq, size_replace? hq, get?_replace?_eq_iff hx (Instruction.ne_of_flip? hy) hq,
      flipAt_replace?_flip hx hy hq⟩
  · -- an instruction with a flip is flipped by plain replacement
    obtain ⟨y, hy⟩ := flip?_isSome_of_isMutable ((Instruction.isMutable_eq_true_iff x).2 hacc)
    obtain ⟨q, hq, hflip⟩ := flipAt_of_flip? hx hy
    exact ⟨y, q, (Instruction.flip_eq_ok_iff x y).2 hy, hq, hflip⟩

/-- Flipping an `acc` names its index and the instruction. -/
example : (⟨#[⟨.nop, 0⟩, ⟨.acc, 1⟩, ⟨.jmp, 4⟩, ⟨.acc, 3⟩, ⟨.jmp, -3⟩]⟩ : Program).flipAt 3 =
    .error (.unflippable (some 3) "acc +3") := by
  rfl

end Program

end BootCode
