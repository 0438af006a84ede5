import BootCode.Repair
/-!
# The repair search finds the lowest repairing flip

The candidates of a program are its `nop` and `jmp` instructions in ascending order of index.
The search flips each in turn and runs the result; it returns the first flip whose run leaves
the program, with the number of candidates run, the winning one included, and otherwise fails
with the number of candidates. Flipping is done by a copy of its own in the search; here it is
compared with the plain replacement of the instruction by its flip, which describes the
candidates without the search.
-/

namespace BootCode

namespace Program

/-- The program with the instruction at `i` replaced by its flip, when there is one there that
flips. -/
def swapped? (p : Program) (i : Nat) : Option Program :=
  (p.get? i).bind fun x => x.flip?.bind (p.replace? i)

/-- The accumulator with which the program with the instruction at `i` flipped runs off its
end, when it does. -/
def exitAfterSwap? (p : Program) (i : Nat) : Option Int :=
  (p.swapped? i).bind (·.run .noMoreInstructions)

theorem mem_mutableIndices {p : Program} {i : Nat} :
    i ∈ p.mutableIndices ↔ ∃ x, p.get? i = some x ∧ x.isMutable = true := by
  simp only [mutableIndices, List.mem_filter, List.mem_range, Option.any_eq_true]
  constructor
  · rintro ⟨-, x, hx, hm⟩
    exact ⟨x, hx, hm⟩
  · rintro ⟨x, hx, hm⟩
    exact ⟨lt_size_of_get? hx, x, hx, hm⟩

/-- A `nop` or `jmp` flips to the other. -/
theorem flip?_isSome_of_isMutable {x : Instruction} (hm : x.isMutable = true) :
    ∃ y, x.flip? = some y := by
  cases hy : x.flip? with
  | some y => exact ⟨y, rfl⟩
  | none =>
    rw [Instruction.flip?_eq_none_iff] at hy
    simp [Instruction.isMutable, hy, Opcode.isMutable] at hm

/-- Flipping an instruction that flips copies the program with the instruction replaced by its
flip. -/
theorem flipAt_of_flip? {p : Program} {i : Nat} {x y : Instruction} (hx : p.get? i = some x)
    (hy : x.flip? = some y) : ∃ q, p.replace? i y = some q ∧ p.flipAt i = .ok ⟨i, x, y, q⟩ := by
  have hlt : i < p.size := lt_size_of_get? hx
  refine ⟨⟨p.instructions.set i y hlt⟩, by simp [replace?, hlt], ?_⟩
  unfold flipAt
  rw [dif_pos hlt]
  -- the flip reads the instruction under the bound `p.size`, so `x` is matched by its value
  have e := Array.getElem?_eq_getElem (show i < p.instructions.size from hlt)
  rw [show p.instructions[i]? = p.get? i from rfl, hx, Option.some.injEq] at e
  subst e
  dsimp only
  split
  · rename_i y' hy'
    obtain rfl : y' = y := Option.some.inj (hy'.symm.trans hy)
    rfl
  · rename_i hy'
    cases hy'.symm.trans hy

/-- Flipping at a candidate index succeeds, and the candidate is the program with the
instruction replaced by its flip. -/
theorem flipAt_of_mem {p : Program} {i : Nat} (hi : i ∈ p.mutableIndices) :
    ∃ x y q, p.get? i = some x ∧ x.flip? = some y ∧ p.swapped? i = some q ∧
      p.flipAt i = .ok ⟨i, x, y, q⟩ := by
  obtain ⟨x, hx, hm⟩ := mem_mutableIndices.1 hi
  obtain ⟨y, hy⟩ := flip?_isSome_of_isMutable hm
  obtain ⟨q, hq, hflip⟩ := flipAt_of_flip? hx hy
  exact ⟨x, y, q, hx, hy, by simp [swapped?, hx, hy, hq], hflip⟩

-- ---------------------------------------------------------------------------
-- One candidate at a time
-- ---------------------------------------------------------------------------

/-- A candidate whose run does not leave the program is counted and the search goes on. -/
theorem searchFix_cons_of_none {p : Program} {i : Nat} {is : List Nat} {t : Nat}
    (hi : i ∈ p.mutableIndices) (h : p.exitAfterSwap? i = none) :
    p.searchFix (i :: is) t = p.searchFix is (t + 1) := by
  obtain ⟨x, y, q, -, -, hq, hflip⟩ := flipAt_of_mem hi
  simp only [exitAfterSwap?, hq, Option.bind_some] at h
  rw [searchFix, hflip]
  simp only [bind, Except.bind, h]

/-- A candidate whose run leaves the program wins, with the count of candidates run. -/
theorem searchFix_cons_of_some {p : Program} {i : Nat} {is : List Nat} {t : Nat}
    {x y : Instruction} {a : Int} (hi : i ∈ p.mutableIndices) (hx : p.get? i = some x)
    (hy : x.flip? = some y) (h : p.exitAfterSwap? i = some a) :
    p.searchFix (i :: is) t = .ok ⟨i, x, y, a, t + 1⟩ := by
  obtain ⟨x', y', q, hx', hy', hq, hflip⟩ := flipAt_of_mem hi
  obtain rfl : x' = x := Option.some.inj (hx'.symm.trans hx)
  obtain rfl : y' = y := Option.some.inj (hy'.symm.trans hy)
  simp only [exitAfterSwap?, hq, Option.bind_some] at h
  rw [searchFix, hflip]
  simp only [bind, Except.bind, h]

/-- When no candidate of the list runs off the end, the search fails after trying them all. -/
theorem searchFix_of_forall_none {p : Program} {is : List Nat}
    (hmem : ∀ i ∈ is, i ∈ p.mutableIndices) (hnone : ∀ i ∈ is, p.exitAfterSwap? i = none)
    (t : Nat) : p.searchFix is t = .error (.noFixFound (t + is.length)) := by
  induction is generalizing t with
  | nil => rfl
  | cons i is ih =>
    rw [searchFix_cons_of_none (hmem i List.mem_cons_self) (hnone i List.mem_cons_self),
      ih (fun j hj => hmem j (List.mem_cons_of_mem i hj))
        (fun j hj => hnone j (List.mem_cons_of_mem i hj))]
    simp only [List.length_cons]
    congr 2
    omega

/-- The search returns the first candidate of the list that runs off the end. -/
theorem searchFix_of_first {p : Program} {pre post : List Nat} {i : Nat} {x y : Instruction}
    {a : Int} (hmem : ∀ j ∈ pre ++ i :: post, j ∈ p.mutableIndices)
    (hpre : ∀ j ∈ pre, p.exitAfterSwap? j = none) (hx : p.get? i = some x)
    (hy : x.flip? = some y) (ha : p.exitAfterSwap? i = some a) (t : Nat) :
    p.searchFix (pre ++ i :: post) t = .ok ⟨i, x, y, a, t + pre.length + 1⟩ := by
  induction pre generalizing t with
  | nil => exact searchFix_cons_of_some (hmem i (by simp)) hx hy ha
  | cons j pre ih =>
    rw [List.cons_append, searchFix_cons_of_none (hmem j (by simp)) (hpre j List.mem_cons_self),
      ih (fun k hk => hmem k (List.mem_cons_of_mem j hk))
        (fun k hk => hpre k (List.mem_cons_of_mem j hk))]
    simp only [List.length_cons]
    congr 2
    omega

/-- Either no candidate runs off the end, or one does and none before it. -/
theorem forall_none_or_first (p : Program) (is : List Nat) :
    (∀ i ∈ is, p.exitAfterSwap? i = none) ∨
    ∃ pre i post a, is = pre ++ i :: post ∧ (∀ j ∈ pre, p.exitAfterSwap? j = none) ∧
      p.exitAfterSwap? i = some a := by
  cases h : is.find? fun i => (p.exitAfterSwap? i).isSome with
  | none =>
    left
    intro i hi
    simpa using List.find?_eq_none.1 h i hi
  | some i =>
    right
    obtain ⟨hi, pre, post, heq, hpre⟩ := List.find?_eq_some_iff_append.1 h
    obtain ⟨a, ha⟩ := Option.isSome_iff_exists.1 hi
    exact ⟨pre, i, post, a, heq, fun j hj => by simpa using hpre j hj, ha⟩

-- ---------------------------------------------------------------------------
-- The search over all candidates
-- ---------------------------------------------------------------------------

/-- When no flip runs off the end, the search fails with the number of candidates. -/
theorem findFix_of_forall_none {p : Program}
    (h : ∀ i ∈ p.mutableIndices, p.exitAfterSwap? i = none) :
    p.findFix = .error (.noFixFound p.mutableIndices.length) := by
  simpa [findFix] using searchFix_of_forall_none (fun _ hi => hi) h 0

/-- When a candidate runs off the end and none before it does, the search returns it. -/
theorem findFix_of_first {p : Program} {pre post : List Nat} {i : Nat} {x y : Instruction}
    {a : Int} (heq : p.mutableIndices = pre ++ i :: post)
    (hpre : ∀ j ∈ pre, p.exitAfterSwap? j = none) (hx : p.get? i = some x)
    (hy : x.flip? = some y) (ha : p.exitAfterSwap? i = some a) :
    p.findFix = .ok ⟨i, x, y, a, pre.length + 1⟩ := by
  have hmem : ∀ j ∈ pre ++ i :: post, j ∈ p.mutableIndices := fun j hj => heq ▸ hj
  rw [findFix, heq]
  simpa using searchFix_of_first hmem hpre hx hy ha 0

/-- The repair search returns exactly the lowest repairing flip: the `nop` or `jmp` of lowest
index whose flip, made by plain replacement, runs off the end, with the number of candidates up
to and with it. When no flip does, it fails with the number of candidates, and it fails in no
other way. The accumulator alone is the one of that flip. -/
theorem findFix_eq_lowest (p : Program) :
    (∀ f, p.findFix = .ok f ↔
      ∃ pre i post x y a, p.mutableIndices = pre ++ i :: post ∧
        (∀ j ∈ pre, p.exitAfterSwap? j = none) ∧ p.get? i = some x ∧ x.flip? = some y ∧
        p.exitAfterSwap? i = some a ∧ f = ⟨i, x, y, a, pre.length + 1⟩) ∧
    (∀ e, p.findFix = .error e ↔
      e = .noFixFound p.mutableIndices.length ∧
        ∀ i ∈ p.mutableIndices, p.exitAfterSwap? i = none) ∧
    p.fixAccumulator = p.findFix.map Fix.accumulator := by
  rcases forall_none_or_first p p.mutableIndices with hnone | ⟨pre, i, post, a, heq, hpre, ha⟩
  · -- no flip repairs the program: the search fails
    have hfail := findFix_of_forall_none hnone
    refine ⟨fun f => ⟨fun h => ?_, ?_⟩, fun e => ?_, rfl⟩
    · rw [hfail] at h
      cases h
    · rintro ⟨pre, i, post, x, y, a, heq, -, -, -, ha, -⟩
      have hi : i ∈ p.mutableIndices := by simp [heq]
      rw [hnone i hi] at ha
      cases ha
    · rw [hfail]
      constructor
      · intro h
        cases h
        exact ⟨rfl, hnone⟩
      · rintro ⟨rfl, -⟩
        rfl
  · -- a lowest repairing flip: the search returns it
    have hi : i ∈ p.mutableIndices := by simp [heq]
    obtain ⟨x, y, -, hx, hy, -, -⟩ := flipAt_of_mem hi
    have hwin := findFix_of_first heq hpre hx hy ha
    refine ⟨fun f => ⟨fun h => ?_, ?_⟩, fun e => ⟨fun h => ?_, ?_⟩, rfl⟩
    · rw [hwin] at h
      cases h
      exact ⟨pre, i, post, x, y, a, heq, hpre, hx, hy, ha, rfl⟩
    · rintro ⟨pre', i', post', x', y', a', heq', hpre', hx', hy', ha', rfl⟩
      exact findFix_of_first heq' hpre' hx' hy' ha'
    · rw [hwin] at h
      cases h
    · rintro ⟨-, hall⟩
      rw [hall i hi] at ha
      cases ha

/-- Of two flips that repair the program, the one of lower index wins, after one candidate. -/
example : (⟨#[⟨.nop, 3⟩, ⟨.acc, 1⟩, ⟨.jmp, -2⟩, ⟨.acc, 100⟩]⟩ : Program).findFix =
    .ok ⟨0, ⟨.nop, 3⟩, ⟨.jmp, 3⟩, 100, 1⟩ := by
  rfl

end Program

end BootCode
