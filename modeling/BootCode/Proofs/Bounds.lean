import BootCode.Proofs.Run
import BootCode.Repair
/-!
# Bounds of a run

How long a run lasts and how large its numbers grow.

The machine's loop to the end has no iteration cap of its own: it stops because each step that
does not stop the machine executes an instruction at a position not visited before, and there
are only as many positions as instructions. So from the start the first terminal step comes at
call `K + 1` with `K` at most the length of the program, every fuel from `K` on settles on that
same step, and the run to the end leaves the machine with as many positions marked as
instructions executed (`runToEnd_start_terminates`).

Each instruction moves the accumulator by at most one 32-bit argument and keeps the position
within one 32-bit jump of the program (`State.InBounds`, kept by `Program.next`). A run executes
at most as many instructions as the program has, so for programs of at most `2 ^ 32`
instructions every sum the machine forms fits the signed 64-bit range, also in the candidates
the repair search runs. The limit is exact: `2 ^ 32 + 1` instructions `acc -2147483648` overflow
on the last one.
-/

namespace BootCode

-- ---------------------------------------------------------------------------
-- Termination of the loop to the end
-- ---------------------------------------------------------------------------

namespace Machine

theorem runToEnd_snd (m : Machine) : m.runToEnd.2 = (m.settle m.budget).2 := rfl

theorem runToEnd_steps (m : Machine) : m.runToEnd.1.steps = m.runToEnd.2.steps := rfl

/-- A stopped machine on the plain run has marked one position per instruction executed. -/
theorem Follows.count_of_finished {p : Program} {m : Machine} (h : m.Follows p) {d : Step}
    (hd : m.finished = some d) : m.history.count = m.steps := by
  rw [h.count, hd]
  simp

/-- The loop to the end calls `step` until the first terminal step, which comes at call
`K + 1` for some `K` no larger than the program; any fuel from `K` on settles on it, and the
machine after it has marked exactly as many positions as it executed instructions, at most the
length of the program. -/
theorem runToEnd_start_terminates (p : Program) :
    ∃ K ≤ p.size, (∀ i < K, ((start p).after i).step.1.isTerminal = false) ∧
      ((start p).after K).step.1.isTerminal = true ∧
      (∀ extra, (start p).settle (K + extra) = ((start p).after K).step) ∧
      (start p).runToEnd.2 = (start p).after (K + 1) ∧
      (start p).runToEnd.1.steps = (start p).runToEnd.2.history.count ∧
      (start p).runToEnd.1.steps ≤ p.size := by
  have h0 := Follows.start p
  obtain ⟨K, hK, hmove, hterm⟩ := h0.exists_first_terminal rfl
  have hsettle : ∀ extra, (start p).settle (K + extra) = ((start p).after K).step :=
    fun extra => settle_eq hmove hterm (by omega)
  -- the budget is the length of the program and one more, which covers `K`
  have hrun : (start p).runToEnd.2 = (start p).after (K + 1) := by
    have hbudget : (start p).budget = K + (p.size + 1 - K) := by
      simp only [budget, start]
      omega
    rw [runToEnd_snd, hbudget, hsettle, after_succ]
  have hfin : ((start p).after (K + 1)).finished = some ((start p).after K).step.1 := by
    rw [after_succ]
    exact finished_of_terminal hterm
  have hB := h0.after (K + 1)
  refine ⟨K, by simpa [start] using hK, hmove, hterm, hsettle, hrun, ?_, ?_⟩
  · rw [runToEnd_steps, hrun, hB.count_of_finished hfin]
  · rw [runToEnd_steps, hrun]
    exact hB.steps_le

end Machine

-- ---------------------------------------------------------------------------
-- Bounds of the numbers
-- ---------------------------------------------------------------------------

namespace State

/-- The bounds of a state after `steps` instructions of a program of `len` instructions: the
accumulator has moved by at most one 32-bit argument per instruction, and the position is
within one 32-bit jump of the program. -/
def InBounds (len steps : Nat) (s : State) : Prop :=
  -2 ^ 31 * (steps : Int) ≤ s.accumulator ∧ s.accumulator ≤ (2 ^ 31 - 1) * (steps : Int) ∧
    -2 ^ 31 ≤ s.position ∧ s.position ≤ len + 2 ^ 31 - 1

theorem inBounds_initial (len : Nat) : initial.InBounds len 0 := by
  simp only [InBounds, initial]
  omega

/-- The bounds loosen as the count of instructions grows. -/
theorem InBounds.succ {len k : Nat} {s : State} (h : s.InBounds len k) : s.InBounds len (k + 1) := by
  obtain ⟨ha1, ha2, hp1, hp2⟩ := h
  refine ⟨?_, ?_, hp1, hp2⟩ <;> push_cast <;> omega

/-- Executing an instruction at a position inside the program keeps the bounds, one
instruction further: `nop` and `acc` move on by one, at most to the end of the program, `acc`
adds one argument, and `jmp` moves by one argument. -/
theorem InBounds.execute {len k : Nat} {s : State} (h : s.InBounds len k)
    (hin : 0 ≤ s.position ∧ s.position < len) (i : Instruction) :
    (i.execute s).InBounds len (k + 1) := by
  obtain ⟨ha1, ha2, hp1, hp2⟩ := h
  obtain ⟨op, a⟩ := i
  have hlo := Int32.le_toInt a
  have hhi := Int32.toInt_lt a
  unfold InBounds
  push_cast
  cases op with
  | nop =>
    simp only [Instruction.execute_nop]
    omega
  | acc =>
    simp only [Instruction.execute_acc]
    omega
  | jmp =>
    simp only [Instruction.execute_jmp]
    omega

end State

namespace Program

/-- One instruction of the plain run keeps the bounds, one step further. -/
theorem inBounds_next (p : Program) {k : Nat} {s : State} (h : s.InBounds p.size k) :
    (p.next s).InBounds p.size (k + 1) := by
  cases hf : p.fetch s with
  | none =>
    rw [next, hf]
    exact h.succ
  | some i =>
    rw [next_of_fetch hf]
    exact h.execute (inside_of_fetch hf) i

/-- Every state of the plain run is within the bounds of its number of instructions. -/
theorem inBounds_stateAt (p : Program) (k : Nat) : (p.stateAt k).InBounds p.size k := by
  induction k with
  | zero => exact State.inBounds_initial p.size
  | succ k ih => exact p.inBounds_next ih

/-- Every sum that a run of the program forms fits the signed 64-bit range: each instruction
the machine executes from the start gives the same state in checked arithmetic. -/
def AddsFit (p : Program) : Prop :=
  ∀ k i, ((Machine.start p).after k).finished = none →
    ((Machine.start p).after k).current? = some i →
      i.execute? ((Machine.start p).after k).state = .ok (i.execute ((Machine.start p).after k).state)

end Program

namespace Instruction

theorem execute?_eq_ok {i : Instruction} {s : State} (hp : fitsWord (i.execute s).position = true)
    (ha : fitsWord (i.execute s).accumulator = true) : i.execute? s = .ok (i.execute s) := by
  unfold execute?
  cases h : i.op <;> simp_all

end Instruction

namespace Machine.Follows

variable {p : Program} {m : Machine}

/-- A running machine about to execute an instruction has room for it: its marks count the
instructions so far and the current position, and there are as many marks as instructions. -/
theorem succ_steps_le (h : m.Follows p) (hf : m.finished = none)
    (hin : p.Inside (p.stateAt m.steps)) : m.steps + 1 ≤ p.size := by
  have hle : m.history.count ≤ m.history.visited.size := Array.count_le_size
  rw [h.count, h.size, if_pos ⟨hf, hin⟩] at hle
  exact hle

end Machine.Follows

namespace Program

/-- In a program of at most `2 ^ 32` instructions every sum a run forms fits: the state after an
instruction is within the bounds of at most `2 ^ 32` instructions. -/
theorem addsFit_of_size_le {p : Program} (hsize : p.size ≤ 2 ^ 32) : p.AddsFit := by
  intro k i hf hc
  have h := (Machine.Follows.start p).after k
  obtain ⟨hin, hnext⟩ := h.execute_current hc
  have hroom := h.succ_steps_le hf hin
  obtain ⟨ha1, ha2, hp1, hp2⟩ := p.inBounds_stateAt (((Machine.start p).after k).steps + 1)
  rw [← hnext] at ha1 ha2 hp1 hp2
  apply Instruction.execute?_eq_ok
  · simp only [fitsWord, Bool.and_eq_true, decide_eq_true_eq]
    omega
  · simp only [fitsWord, Bool.and_eq_true, decide_eq_true_eq]
    push_cast at ha1 ha2
    omega

/-- A flip keeps the length of the program. -/
theorem size_of_flipAt {p : Program} {i : Nat} {c : Candidate} (h : p.flipAt i = .ok c) :
    c.program.size = p.size := by
  unfold flipAt at h
  split at h
  · dsimp only at h
    split at h
    · cases h
      exact Array.size_set ‹_›
    · cases h
  · cases h

end Program

-- ---------------------------------------------------------------------------
-- The limit is exact
-- ---------------------------------------------------------------------------

namespace Machine

/-- While the plain run does not stop, the machine from the start runs along it, one
instruction per call of `step`. -/
theorem after_start_running {p : Program} {k : Nat} (hrun : ∀ j < k, ¬ p.StopsAt j)
    (hk : ¬ p.Revisits k) : ((start p).after k).finished = none ∧ ((start p).after k).steps = k := by
  induction k with
  | zero => exact ⟨rfl, rfl⟩
  | succ k ih =>
    have hk' : ¬ p.Revisits k := fun hr => hrun k (by omega) (.inr hr)
    obtain ⟨hf, hs⟩ := ih (fun j hj => hrun j (by omega)) hk'
    have h := (Follows.start p).after k
    -- the step at `k` neither halts, since state `k` is inside, nor revisits, by `hk`
    have hmove : ((start p).after k).step.1.isTerminal = false := by
      rcases h.step_cases hf with ⟨hout, -⟩ | ⟨-, hrev, -⟩ | ⟨-, -, h1, -⟩
      · rw [hs] at hout
        exact absurd (.inl hout) (hrun k (by omega))
      · rw [hs] at hrev
        exact absurd hrev hk
      · rw [h1]
        rfl
    obtain ⟨hf', hs'⟩ := step_of_not_terminal hf hmove
    rw [after_succ]
    exact ⟨hf', by omega⟩

end Machine

namespace Program

/-- The program of `n` instructions `acc a`. -/
def accs (n : Nat) (a : Int32) : Program :=
  ⟨Array.replicate n ⟨.acc, a⟩⟩

theorem fetch_accs {n : Nat} {a : Int32} {k : Nat} (hk : k < n) (acc : Int) :
    (accs n a).fetch ⟨k, acc⟩ = some ⟨.acc, a⟩ := by
  simp [fetch, State.indexWithin, accs, size, get?, hk]

/-- `n` instructions `acc a` run straight through: after `k ≤ n` of them the run is at
position `k` with `k` times `a` in the accumulator. -/
theorem stateAt_accs {n : Nat} {a : Int32} {k : Nat} (hk : k ≤ n) :
    (accs n a).stateAt k = ⟨k, k * a.toInt⟩ := by
  induction k with
  | zero => simp [State.initial]
  | succ k ih =>
    rw [stateAt_succ, ih (by omega), next_of_fetch (fetch_accs (by omega) _),
      Instruction.execute_acc]
    congr 1
    push_cast
    ring

/-- The plain run of `n` instructions `acc a` does not stop before state `n`, and no state up
to `n` revisits. -/
theorem accs_running {n : Nat} {a : Int32} :
    (∀ j < n, ¬ (accs n a).StopsAt j) ∧ ∀ k ≤ n, ¬ (accs n a).Revisits k := by
  have hrev : ∀ k ≤ n, ¬ (accs n a).Revisits k := by
    rintro k hk ⟨j, hj, he⟩
    rw [stateAt_accs (by omega), stateAt_accs hk] at he
    simp only at he
    omega
  refine ⟨fun j hj hs => ?_, hrev⟩
  rcases hs with hout | hr
  · apply hout
    rw [stateAt_accs (by omega)]
    simp [Inside, accs, size, hj]
  · exact hrev j (by omega) hr

/-- With `2 ^ 32 + 1` instructions `acc -2147483648`, the machine executes the last one at an
accumulator of `-2 ^ 63`, where the sum leaves the signed 64-bit range; the step after it
halts. -/
theorem accs_overflow :
    let m := (Machine.start (accs (2 ^ 32 + 1) (-2147483648))).after (2 ^ 32)
    m.finished = none ∧ m.current? = some ⟨.acc, -2147483648⟩ ∧
      Instruction.execute? ⟨.acc, -2147483648⟩ m.state = .error .overflow ∧
      ((Machine.start (accs (2 ^ 32 + 1) (-2147483648))).after (2 ^ 32 + 1)).step.1 =
        .halted ⟨2 ^ 32 + 1, -2 ^ 31 * (2 ^ 32 + 1)⟩ := by
  obtain ⟨hrun, hrev⟩ := accs_running (n := 2 ^ 32 + 1) (a := -2147483648)
  obtain ⟨hf, hs⟩ := Machine.after_start_running (fun j hj => hrun j (Nat.lt_succ_of_lt hj))
    (hrev (2 ^ 32) (Nat.le_succ _))
  obtain ⟨hf', hs'⟩ := Machine.after_start_running hrun (hrev _ le_rfl)
  have h := (Machine.Follows.start (accs (2 ^ 32 + 1) (-2147483648))).after (2 ^ 32)
  have h' := (Machine.Follows.start (accs (2 ^ 32 + 1) (-2147483648))).after (2 ^ 32 + 1)
  have hmin : (-2147483648 : Int32).toInt = -2 ^ 31 := by decide
  have hstate : ((Machine.start (accs (2 ^ 32 + 1) (-2147483648))).after (2 ^ 32)).state =
      ⟨2 ^ 32, -2 ^ 63⟩ := by
    rw [h.state, hs, stateAt_accs (by omega), hmin]
    norm_num
  have hstate' : ((Machine.start (accs (2 ^ 32 + 1) (-2147483648))).after (2 ^ 32 + 1)).state =
      ⟨2 ^ 32 + 1, -2 ^ 31 * (2 ^ 32 + 1)⟩ := by
    rw [h'.state, hs', stateAt_accs le_rfl, hmin]
    norm_num
  refine ⟨hf, ?_, ?_, ?_⟩
  · rw [Machine.current?_eq, h.program, hstate]
    have hfetch := fetch_accs (n := 2 ^ 32 + 1) (a := -2147483648) (k := 2 ^ 32) (by omega) (-2 ^ 63)
    push_cast at hfetch
    exact hfetch
  · rw [hstate, Instruction.execute?, Instruction.execute_acc, hmin]
    simp [fitsWord]
  · -- state `2 ^ 32 + 1` is past the end, so the machine halts there
    have hc : ((Machine.start (accs (2 ^ 32 + 1) (-2147483648))).after (2 ^ 32 + 1)).current? =
        none := by
      rw [Machine.current?_eq, h'.program, hstate', fetch_eq_none_iff]
      simp [Inside, accs, size]
    rw [Machine.step_of_outside hf' hc, hstate']

/-- The numbers of a run stay within bounds that grow by one 32-bit argument per instruction
executed. For programs of at most `2 ^ 32` instructions every sum the machine forms fits the
signed 64-bit range, in the candidates of the repair search as well; `2 ^ 32 + 1`
instructions `acc -2147483648` overflow on the last one. -/
theorem run_sums_fit_word :
    (∀ (p : Program) (k : Nat),
      ((Machine.start p).after k).state.InBounds p.size ((Machine.start p).after k).steps) ∧
    (∀ p : Program, p.size ≤ 2 ^ 32 →
      p.AddsFit ∧ ∀ i c, p.flipAt i = .ok c → c.program.AddsFit) ∧
    let m := (Machine.start (accs (2 ^ 32 + 1) (-2147483648))).after (2 ^ 32)
    m.finished = none ∧ m.current? = some ⟨.acc, -2147483648⟩ ∧
      Instruction.execute? ⟨.acc, -2147483648⟩ m.state = .error .overflow ∧
      ((Machine.start (accs (2 ^ 32 + 1) (-2147483648))).after (2 ^ 32 + 1)).step.1 =
        .halted ⟨2 ^ 32 + 1, -2 ^ 31 * (2 ^ 32 + 1)⟩ := by
  refine ⟨fun p k => ?_, fun p hsize => ⟨addsFit_of_size_le hsize, fun i c hc => ?_⟩,
    accs_overflow⟩
  · have h := (Machine.Follows.start p).after k
    rw [h.state]
    exact p.inBounds_stateAt _
  · -- a candidate has as many instructions as the program it flips
    exact addsFit_of_size_le (by rw [size_of_flipAt hc]; exact hsize)

/-- The looping sample program is within the limit, so every sum its run forms fits: the
checked step at the sixth instruction the run executes, `jmp -3` at position 3, succeeds and
leads back to position 0. -/
theorem sums_fit_in_looping_run :
    let p : Program := ⟨#[⟨.acc, 1⟩, ⟨.jmp, 4⟩, ⟨.acc, 3⟩, ⟨.jmp, -3⟩, ⟨.acc, -99⟩, ⟨.acc, 1⟩,
      ⟨.jmp, -4⟩, ⟨.acc, 6⟩]⟩
    p.size ≤ 2 ^ 32 ∧ p.AddsFit ∧ (∀ i c, p.flipAt i = .ok c → c.program.AddsFit) ∧
      ((Machine.start p).after 5).current? = some ⟨.jmp, -3⟩ ∧
      Instruction.execute? ⟨.jmp, -3⟩ ((Machine.start p).after 5).state = .ok ⟨0, 5⟩ := by
  intro p
  have hsize : p.size ≤ 2 ^ 32 := by decide
  obtain ⟨hfit, hflips⟩ := run_sums_fit_word.2.1 p hsize
  have hf : ((Machine.start p).after 5).finished = none := by decide
  have hc : ((Machine.start p).after 5).current? = some ⟨.jmp, -3⟩ := by decide
  have hnext : Instruction.execute ⟨.jmp, -3⟩ ((Machine.start p).after 5).state = ⟨0, 5⟩ := by
    decide
  refine ⟨hsize, hfit, hflips, hc, ?_⟩
  rw [hfit 5 _ hf hc, hnext]

end Program

end BootCode
