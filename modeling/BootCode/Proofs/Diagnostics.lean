import BootCode.Lint
import BootCode.Proofs.Run
/-!
# The jump diagnostics are exact, and they report every dirty exit

The lint reads each jump on its own: a `jmp +0` loops on itself, and any other jump whose target
lies before the start or beyond the end of the program is reported with that target.
`Program.Misjump` states this rule without the lint's list plumbing, and the lint reports
exactly the misjumps, in ascending order of index, so each index at most once
(`Program.mem_diagnostics_iff`, `Program.pairwise_index_diagnostics`).

The lint judges targets against `[0, n]`, while a run leaves a program of `n` instructions as
soon as its position leaves `[0, n)`. The two agree on every run: `nop` and `acc` move on by
one, so they leave the program only at `n`, and a run that leaves it anywhere else does so by a
jump the lint reports, with the run's last position as its target. A run that executes a
`jmp +0` stops on the very next state, on the revisit of its position.
-/

namespace BootCode

namespace Program

/-- The diagnostic the jump at its index deserves: a `jmp +0` loops on itself, and a jump whose
target lies outside `[0, n]` leaves a program of `n` instructions at that target. -/
inductive Misjump (p : Program) : Diagnostic → Prop
  | selfLoop {i : Nat} : p.get? i = some ⟨.jmp, 0⟩ → p.Misjump ⟨i, ⟨.jmp, 0⟩, .selfLoop⟩
  | outOfRange {i : Nat} {v : Int32} : p.get? i = some ⟨.jmp, v⟩ →
      ¬ (0 ≤ (i : Int) + v.toInt ∧ (i : Int) + v.toInt ≤ p.size) →
      p.Misjump ⟨i, ⟨.jmp, v⟩, .jumpOutOfRange (i + v.toInt)⟩

variable {p : Program}

/-- A misjump carries the instruction at its index. -/
theorem Misjump.get?_index {d : Diagnostic} (h : p.Misjump d) :
    p.get? d.index = some d.instruction := by
  cases h with
  | selfLoop hx => exact hx
  | outOfRange hx _ => exact hx

-- ---------------------------------------------------------------------------
-- The lint against its rule
-- ---------------------------------------------------------------------------

theorem index_of_ofInstruction? {len i : Nat} {x : Instruction} {d : Diagnostic}
    (h : Diagnostic.ofInstruction? len i x = some d) : d.index = i := by
  unfold Diagnostic.ofInstruction? at h
  split at h
  · split at h
    · cases h
      rfl
    · dsimp only at h
      split at h
      · cases h
      · cases h
        rfl
  · cases h

theorem misjump_of_ofInstruction? {i : Nat} {x : Instruction} {d : Diagnostic}
    (hx : p.get? i = some x) (h : Diagnostic.ofInstruction? p.size i x = some d) :
    p.Misjump d := by
  rcases x with ⟨op, v⟩
  cases op with
  | nop | acc => cases h
  | jmp =>
    simp only [Diagnostic.ofInstruction?] at h
    split at h
    · rename_i h0
      cases h
      obtain rfl : v = 0 := Int32.toInt_inj.1 (by rw [h0, Int32.toInt_zero])
      exact .selfLoop hx
    · split at h
      · cases h
      · rename_i hout
        cases h
        exact .outOfRange hx hout

theorem ofInstruction?_of_misjump {d : Diagnostic} (h : p.Misjump d) :
    Diagnostic.ofInstruction? p.size d.index d.instruction = some d := by
  cases h with
  | selfLoop hx => simp [Diagnostic.ofInstruction?]
  | @outOfRange i v hx hout =>
    -- a jump by zero lands on its own index, inside `[0, n]`
    have hv : v.toInt ≠ 0 := by
      intro h0
      have hlt : i < p.size := lt_size_of_get? hx
      rw [h0] at hout
      omega
    simp [Diagnostic.ofInstruction?, hv, hout]

/-- The lint reports exactly the misjumps. -/
theorem mem_diagnostics_iff (p : Program) (d : Diagnostic) : d ∈ p.diagnostics ↔ p.Misjump d := by
  simp only [diagnostics, List.mem_filterMap]
  constructor
  · rintro ⟨⟨x, i⟩, hmem, hd⟩
    have hx : p.get? i = some x := by
      simpa [get?] using List.mem_zipIdx_iff_getElem?.1 hmem
    exact misjump_of_ofInstruction? hx hd
  · intro h
    refine ⟨⟨d.instruction, d.index⟩, ?_, ofInstruction?_of_misjump h⟩
    have hx := h.get?_index
    simpa [List.mem_zipIdx_iff_getElem?, get?] using hx

/-- The lint reports in ascending order of index. -/
theorem pairwise_index_diagnostics (p : Program) :
    (p.diagnostics.map Diagnostic.index).Pairwise (· < ·) := by
  have hL : p.instructions.toList.zipIdx.Pairwise fun a b => a.2 < b.2 := by
    refine List.pairwise_map.1 ?_
    rw [List.zipIdx_map_snd]
    exact List.pairwise_lt_range'
  rw [List.pairwise_map]
  refine hL.filterMap _ fun a b hab d hd d' hd' => ?_
  rw [index_of_ofInstruction? hd, index_of_ofInstruction? hd']
  exact hab

-- ---------------------------------------------------------------------------
-- The lint and the runs
-- ---------------------------------------------------------------------------

theorem fetch_eq_some_iff (p : Program) (s : State) (x : Instruction) :
    p.fetch s = some x ↔ ∃ j : Nat, s.position = j ∧ p.get? j = some x := by
  simp only [fetch, Option.bind_eq_some_iff, State.indexWithin_eq_some_iff]
  constructor
  · rintro ⟨j, ⟨hj, -⟩, hx⟩
    exact ⟨j, hj, hx⟩
  · rintro ⟨j, hj, hx⟩
    exact ⟨j, ⟨hj, lt_size_of_get? hx⟩, hx⟩

/-- The states before the first stop lie inside the program. -/
theorem inside_of_lt_isLeast {E k : Nat} (hE : IsLeast {k | p.StopsAt k} E) (hk : k < E) :
    p.Inside (p.stateAt k) :=
  ((p.not_stopsAt_iff k).1 fun hs => absurd (hE.2 hs) (by omega)).1

/-- From a state inside the program the run executes the instruction at its position. -/
theorem stateAt_succ_of_inside {k : Nat} (hin : p.Inside (p.stateAt k)) :
    ∃ (j : Nat) (x : Instruction), (p.stateAt k).position = j ∧ p.get? j = some x ∧
      p.stateAt (k + 1) = x.execute (p.stateAt k) := by
  cases hf : p.fetch (p.stateAt k) with
  | none => exact absurd hin ((p.fetch_eq_none_iff _).1 hf)
  | some x =>
    obtain ⟨j, hj, hx⟩ := (p.fetch_eq_some_iff _ x).1 hf
    exact ⟨j, x, hj, hx, by rw [stateAt_succ, next_of_fetch hf]⟩

/-- A run that leaves the program from state `k` anywhere but one past its end leaves it by a
jump the lint reports, with the run's next position as target: `nop` and `acc` move on by one. -/
theorem misjump_of_leaves {k : Nat} (hin : p.Inside (p.stateAt k))
    (hout : ¬ p.Inside (p.stateAt (k + 1))) (hn : (p.stateAt (k + 1)).position ≠ p.size) :
    ∃ (j : Nat) (v : Int32), (p.stateAt k).position = j ∧ p.get? j = some ⟨.jmp, v⟩ ∧
      p.Misjump ⟨j, ⟨.jmp, v⟩, .jumpOutOfRange (p.stateAt (k + 1)).position⟩ := by
  obtain ⟨j, ⟨op, v⟩, hj, hx, hnext⟩ := stateAt_succ_of_inside hin
  have hlt : j < p.size := lt_size_of_get? hx
  simp only [Inside, hnext] at hout hn
  cases op with
  | nop =>
    simp only [Instruction.execute_nop, hj] at hout hn
    omega
  | acc =>
    simp only [Instruction.execute_acc, hj] at hout hn
    omega
  | jmp =>
    simp only [Instruction.execute_jmp, hj] at hout hn
    refine ⟨j, v, hj, hx, ?_⟩
    rw [hnext, Instruction.execute_jmp, hj]
    exact .outOfRange hx (by omega)

/-- A `jmp +0` executed at state `k` of a run stops it on the next state, the revisit of
state `k`. -/
theorem outcome_of_selfLoop {E k i : Nat} (hE : IsLeast {k | p.StopsAt k} E) (hk : k < E)
    (hi : (p.stateAt k).position = i) (hx : p.get? i = some ⟨.jmp, 0⟩) :
    p.outcome = ⟨.duplicateInstruction, p.stateAt k, k + 1⟩ := by
  have hin := inside_of_lt_isLeast hE hk
  have hstay : p.stateAt (k + 1) = p.stateAt k := by
    rw [stateAt_succ, next_of_fetch ((p.fetch_eq_some_iff _ _).2 ⟨i, hi, hx⟩),
      Instruction.execute_jmp, Int32.toInt_zero, Int.add_zero]
  -- the next state is at the position of state `k`, so the run stops there
  have hstop : p.StopsAt (k + 1) := .inr ⟨k, Nat.lt_succ_self k, by rw [hstay]⟩
  obtain rfl : E = k + 1 := le_antisymm (hE.2 hstop) hk
  rw [outcome_eq_of_isLeast hE, endingAt, hstay, if_pos hin]

/-- The jump lint is exact and sound for dirty exits and self-loops. It reports exactly the
misjumps, in ascending order of index. A run that ends by leaving the program at a position
other than one past its end executed a jump last, and the lint reports that jump with the run's
last position as target. A run that executes a jump the lint reports as a self-loop stops on
the revisit of its position right after it. -/
theorem diagnostics_exact_and_sound (p : Program) :
    (∀ d, d ∈ p.diagnostics ↔ p.Misjump d) ∧
    (p.diagnostics.map Diagnostic.index).Pairwise (· < ·) ∧
    (p.outcome.condition = .noMoreInstructions → p.outcome.state.position ≠ p.size →
      ∃ (j : Nat) (v : Int32), 0 < p.outcome.steps ∧
        (p.stateAt (p.outcome.steps - 1)).position = j ∧ p.get? j = some ⟨.jmp, v⟩ ∧
        ⟨j, ⟨.jmp, v⟩, .jumpOutOfRange p.outcome.state.position⟩ ∈ p.diagnostics) ∧
    (∀ d ∈ p.diagnostics, d.kind = .selfLoop →
      ∀ k < p.outcome.steps, (p.stateAt k).position = d.index →
        p.outcome = ⟨.duplicateInstruction, p.stateAt k, k + 1⟩) := by
  obtain ⟨E, hE⟩ := p.exists_isLeast_stopsAt
  have hout := outcome_eq_of_isLeast hE
  refine ⟨mem_diagnostics_iff p, pairwise_index_diagnostics p, fun hno hn => ?_,
    fun d hd hself k hk hi => ?_⟩
  · rw [hout] at hno hn ⊢
    have hleft : ¬ p.Inside (p.stateAt E) := by
      intro hin
      simp [endingAt, hin] at hno
    -- the empty program stops at once, at position 0, one past its end
    obtain ⟨k, rfl⟩ : ∃ k, E = k + 1 := by
      cases E with
      | zero =>
        rw [stateAt_zero, inside_initial_iff] at hleft
        exact absurd (by simp [State.initial]; omega) hn
      | succ k => exact ⟨k, rfl⟩
    obtain ⟨j, v, hj, hx, hmis⟩ :=
      misjump_of_leaves (inside_of_lt_isLeast hE (Nat.lt_succ_self k)) hleft hn
    exact ⟨j, v, Nat.succ_pos k, hj, hx, (mem_diagnostics_iff p _).2 hmis⟩
  · rw [hout] at hk
    cases (mem_diagnostics_iff p d).1 hd with
    | selfLoop hx => exact outcome_of_selfLoop hE hk hi hx
    | outOfRange _ _ => cases hself

/-- The `jmp +5` at 1 leaves a program of two instructions at 6, not at its end, and the lint
reports it with that target; the `jmp +0` at 1 of the second program is executed, and its run
stops on the revisit of position 1. -/
theorem lint_reports_exit_and_self_loop :
    let p : Program := ⟨#[⟨.acc, 1⟩, ⟨.jmp, 5⟩]⟩
    let q : Program := ⟨#[⟨.acc, 1⟩, ⟨.jmp, 0⟩]⟩
    (p.outcome.condition = .noMoreInstructions ∧ p.outcome.state.position ≠ p.size ∧
      ∃ (j : Nat) (v : Int32), 0 < p.outcome.steps ∧
        (p.stateAt (p.outcome.steps - 1)).position = j ∧ p.get? j = some ⟨.jmp, v⟩ ∧
        ⟨j, ⟨.jmp, v⟩, .jumpOutOfRange p.outcome.state.position⟩ ∈ p.diagnostics) ∧
    (⟨1, ⟨.jmp, 0⟩, .selfLoop⟩ ∈ q.diagnostics ∧ 1 < q.outcome.steps ∧
      (q.stateAt 1).position = 1 ∧ q.outcome = ⟨.duplicateInstruction, q.stateAt 1, 2⟩) := by
  intro p q
  have hcond : p.outcome.condition = .noMoreInstructions := by decide
  have hpos : p.outcome.state.position ≠ p.size := by decide
  have hd : (⟨1, ⟨.jmp, 0⟩, .selfLoop⟩ : Diagnostic) ∈ q.diagnostics := by decide
  have hk : 1 < q.outcome.steps := by decide
  have hi : (q.stateAt 1).position = 1 := by decide
  exact ⟨⟨hcond, hpos, (diagnostics_exact_and_sound p).2.2.1 hcond hpos⟩,
    ⟨hd, hk, hi, (diagnostics_exact_and_sound q).2.2.2 _ hd rfl 1 hk hi⟩⟩

/-- A jump past the end and a jump by zero are reported; the jump to one past the end is not. -/
example : (⟨#[⟨.jmp, 4⟩, ⟨.jmp, 0⟩, ⟨.jmp, 1⟩]⟩ : Program).diagnostics =
    [⟨0, ⟨.jmp, 4⟩, .jumpOutOfRange 4⟩, ⟨1, ⟨.jmp, 0⟩, .selfLoop⟩] := by
  decide

end Program

end BootCode
