import BootCode.Proofs.Bounds
import BootCode.Proofs.Repair
/-!
# A run reads only the instructions it executes

Two programs of one length that fetch the same instruction at every state a run of the first
passes through before it stops run in lock step: they pass through the same states, stop at
the same state and report the same outcome (`Program.outcome_congr`). Replacing the instruction
at a position the run never executes is such a change.

The positions a run executes are exactly those its machine has marked when it stops: the state
it stops on is either outside the program, and never marked, or the revisit of a marked one
(`Machine.Follows.contains_iff_of_finished`). So when a program does not run off its end, a
flip that makes it do so sits at a position the run executes, and the repair search may skip
every other candidate without changing the flip it returns.
-/

namespace BootCode

namespace Program

variable {p q : Program}

-- ---------------------------------------------------------------------------
-- Lock step
-- ---------------------------------------------------------------------------

theorem next_congr {s : State} (h : q.fetch s = p.fetch s) : q.next s = p.next s := by
  simp only [next, h]

/-- Programs that fetch the same instructions at the first `k` states of a run pass through
the same states up to state `k`. -/
theorem stateAt_congr {k : Nat} (h : ∀ j < k, q.fetch (p.stateAt j) = p.fetch (p.stateAt j)) :
    q.stateAt k = p.stateAt k := by
  induction k with
  | zero => rfl
  | succ k ih =>
    have hk : q.stateAt k = p.stateAt k := ih fun j hj => h j (by omega)
    rw [stateAt_succ, stateAt_succ, hk]
    exact next_congr (h k (by omega))

theorem inside_congr (hsize : q.size = p.size) (s : State) : q.Inside s ↔ p.Inside s := by
  simp only [Inside, hsize]

theorem revisits_congr {k : Nat} (h : ∀ j ≤ k, q.stateAt j = p.stateAt j) :
    q.Revisits k ↔ p.Revisits k := by
  constructor <;> rintro ⟨j, hj, he⟩ <;> refine ⟨j, hj, ?_⟩
  · rwa [← h j hj.le, ← h k le_rfl]
  · rwa [h j hj.le, h k le_rfl]

theorem stopsAt_congr (hsize : q.size = p.size) {k : Nat}
    (h : ∀ j ≤ k, q.stateAt j = p.stateAt j) : q.StopsAt k ↔ p.StopsAt k := by
  unfold StopsAt
  rw [h k le_rfl, inside_congr hsize, revisits_congr h]

/-- Programs of one length that fetch the same instructions at the states a run of `p` passes
through before its first stop stop there too, in the same state and the same way: they run to
the same outcome. -/
theorem outcome_congr {E : Nat} (hE : IsLeast {k | p.StopsAt k} E) (hsize : q.size = p.size)
    (h : ∀ j < E, q.fetch (p.stateAt j) = p.fetch (p.stateAt j)) : q.outcome = p.outcome := by
  have hstate : ∀ k ≤ E, q.stateAt k = p.stateAt k :=
    fun k hk => stateAt_congr fun j hj => h j (by omega)
  have hstops : ∀ k ≤ E, q.StopsAt k ↔ p.StopsAt k :=
    fun k hk => stopsAt_congr hsize fun j hj => hstate j (by omega)
  -- the first stop of `q` is the first stop of `p`
  have hqE : IsLeast {k | q.StopsAt k} E := by
    refine isLeast_stopsAt (fun k hk hs => ?_) ((hstops E le_rfl).2 hE.1)
    have hle : E ≤ k := hE.2 ((hstops k hk.le).1 hs)
    omega
  rw [outcome_eq_of_isLeast hqE, outcome_eq_of_isLeast hE, endingAt, endingAt, hstate E le_rfl]
  simp only [inside_congr hsize]

-- ---------------------------------------------------------------------------
-- Replacing an instruction the run does not execute
-- ---------------------------------------------------------------------------

/-- Away from the replaced position a replacement fetches what the program fetches. -/
theorem fetch_replace?_of_ne {i : Nat} {x : Instruction} (hq : p.replace? i x = some q)
    {s : State} (hs : s.position ≠ i) : q.fetch s = p.fetch s := by
  unfold fetch State.indexWithin
  rw [size_replace? hq]
  split
  · rename_i hin
    simp only [Option.bind_some]
    rw [get?_replace? hq, if_neg (by omega)]
  · rfl

/-- Replacing the instruction at a position that no state before the first stop is at leaves
the outcome as it is. -/
theorem outcome_replace?_of_ne {E : Nat} (hE : IsLeast {k | p.StopsAt k} E) {i : Nat}
    {x : Instruction} (hq : p.replace? i x = some q)
    (hi : ∀ k < E, (p.stateAt k).position ≠ i) : q.outcome = p.outcome :=
  outcome_congr hE (size_replace? hq) fun k hk => fetch_replace?_of_ne hq (hi k hk)

end Program

-- ---------------------------------------------------------------------------
-- The marks after a run are the positions it executed
-- ---------------------------------------------------------------------------

namespace Machine

/-- A stopped machine on the plain run has marked exactly the positions of the states before
its current one: the current state is outside the program, where nothing is marked, or
revisits one of them. -/
theorem Follows.contains_iff_of_finished {p : Program} {m : Machine} (h : m.Follows p)
    {d : Step} (hd : m.finished = some d) (x : Int) :
    m.history.contains x = true ↔ ∃ k < m.steps, (p.stateAt k).position = x := by
  rw [h.visited]
  have hmark := h.mark
  rw [hd] at hmark
  constructor
  · rintro ⟨⟨k, hk, rfl⟩, hin⟩
    rcases Nat.lt_or_ge k m.steps with hlt | hge
    · exact ⟨k, hlt, rfl⟩
    · obtain rfl : k = m.steps := by omega
      cases hmark with
      | halted hout => exact absurd hin hout
      | revisit hr =>
        obtain ⟨j, hj, he⟩ := hr
        exact ⟨j, hj, he⟩
  · rintro ⟨k, hk, rfl⟩
    exact ⟨⟨k, hk.le, rfl⟩, h.inside_of_lt hk⟩

/-- The machine after the run to the end from the start is on the plain run and stopped, and
has executed as many instructions as the outcome reports. -/
theorem follows_runToEnd (p : Program) :
    (start p).runToEnd.2.Follows p ∧ (∃ d, (start p).runToEnd.2.finished = some d) ∧
      (start p).runToEnd.2.steps = p.outcome.steps := by
  have h0 := Follows.start p
  obtain ⟨K, hK, hmove, hterm⟩ := h0.exists_first_terminal rfl
  -- the budget covers the steps up to the first terminal one
  have hrun : (start p).runToEnd.2 = (start p).after (K + 1) := by
    have hbudget : K ≤ (start p).budget := by
      simp only [budget, start] at hK ⊢
      omega
    rw [runToEnd_snd, settle_eq hmove hterm hbudget, after_succ]
  have hfin : ((start p).after (K + 1)).finished = some ((start p).after K).step.1 := by
    rw [after_succ]
    exact finished_of_terminal hterm
  rw [hrun]
  exact ⟨h0.after (K + 1), ⟨_, hfin⟩, by rw [Program.outcome, runToEnd_steps, hrun]⟩

end Machine

namespace Program

/-- The run to the end marks exactly the positions of the instructions it executes. -/
theorem contains_runToEnd_iff (p : Program) (x : Int) :
    (Machine.start p).runToEnd.2.history.contains x = true ↔
      ∃ k < p.outcome.steps, (p.stateAt k).position = x := by
  obtain ⟨h, ⟨d, hd⟩, hsteps⟩ := Machine.follows_runToEnd p
  rw [h.contains_iff_of_finished hd, hsteps]

/-- Replacing the instruction at a position the run to the end has not marked leaves the
outcome as it is. -/
theorem outcome_replace?_of_not_contains {i : Nat} {x : Instruction}
    (hi : (Machine.start p).runToEnd.2.history.contains i = false)
    (hq : p.replace? i x = some q) : q.outcome = p.outcome := by
  obtain ⟨E, hE⟩ := p.exists_isLeast_stopsAt
  refine outcome_replace?_of_ne hE hq fun k hk he => ?_
  have hmarked := (p.contains_runToEnd_iff i).2 ⟨k, ?_, he⟩
  · rw [hi] at hmarked
    cases hmarked
  · rw [outcome_eq_of_isLeast hE]
    exact hk

/-- A flip at a position the run does not execute repairs the program only if the program
runs off its end already. -/
theorem exitAfterSwap?_of_not_contains {i : Nat}
    (hi : (Machine.start p).runToEnd.2.history.contains i = false)
    (hnone : p.run .noMoreInstructions = none) : p.exitAfterSwap? i = none := by
  cases hs : p.swapped? i with
  | none => simp [exitAfterSwap?, hs]
  | some q =>
    obtain ⟨x, -, y, -, hq⟩ : ∃ x, p.get? i = some x ∧ ∃ y, x.flip? = some y ∧
        p.replace? i y = some q := by
      simpa [swapped?, Option.bind_eq_some_iff] using hs
    have hout := outcome_replace?_of_not_contains hi hq
    simp only [exitAfterSwap?, hs, Option.bind_some, run, hout]
    simpa [run] using hnone

/-- A run depends only on the instructions it executes. The run to the end marks exactly the
positions of the instructions it executes, and replacing the instruction at any other position,
by any instruction, leaves the outcome as it is. So when the program does not run off its end,
the flip the repair search returns sits at a position the run executes, and searching the `nop`
and `jmp` at executed positions alone returns the same flip with the same accumulator. -/
theorem outcome_depends_on_executed (p : Program) :
    (∀ x : Int, (Machine.start p).runToEnd.2.history.contains x = true ↔
      ∃ k < p.outcome.steps, (p.stateAt k).position = x) ∧
    (∀ (i : Nat) (x : Instruction) (q : Program),
      (Machine.start p).runToEnd.2.history.contains i = false →
      p.replace? i x = some q → q.outcome = p.outcome) ∧
    (p.run .noMoreInstructions = none → ∀ f, p.findFix = .ok f →
      (∃ k < p.outcome.steps, (p.stateAt k).position = f.index) ∧
      ∃ n, p.searchFix (p.mutableIndices.filter fun j =>
          (Machine.start p).runToEnd.2.history.contains j) 0 = .ok { f with candidatesTried := n }) := by
  refine ⟨p.contains_runToEnd_iff, fun i x q hi hq => outcome_replace?_of_not_contains hi hq,
    fun hnone f hf => ?_⟩
  rcases forall_none_or_first p p.mutableIndices with hall | ⟨pre, i, post, a, heq, hpre, ha⟩
  · rw [findFix_of_forall_none hall] at hf
    cases hf
  · have hi : i ∈ p.mutableIndices := by simp [heq]
    obtain ⟨x, y, -, hx, hy, -, -⟩ := flipAt_of_mem hi
    rw [findFix_of_first heq hpre hx hy ha] at hf
    cases hf
    -- the winning flip repairs the program, so it sits at an executed position
    have hmarked : (Machine.start p).runToEnd.2.history.contains i = true := by
      by_contra hno
      rw [exitAfterSwap?_of_not_contains (by simpa using hno) hnone] at ha
      cases ha
    let marked := fun j : Nat => (Machine.start p).runToEnd.2.history.contains j
    have hsplit : p.mutableIndices.filter marked =
        pre.filter marked ++ i :: post.filter marked := by
      rw [heq, List.filter_append, List.filter_cons_of_pos (show marked i = true from hmarked)]
    refine ⟨(p.contains_runToEnd_iff i).1 hmarked, (pre.filter marked).length + 1, ?_⟩
    have hwin := searchFix_of_first (fun j hj => (List.mem_filter.1 (hsplit ▸ hj)).1)
      (fun j hj => hpre j (List.mem_filter.1 hj).1) hx hy ha 0
    rw [hsplit, hwin, Nat.zero_add]

/-- In this looping program the `nop` at 1 is never executed: flipping it keeps the outcome,
and the repairing flip, at 3, lies on the run, where the search over executed positions finds it
too. -/
theorem unexecuted_flip_keeps_outcome :
    let p : Program := ⟨#[⟨.jmp, 2⟩, ⟨.nop, 0⟩, ⟨.acc, 1⟩, ⟨.jmp, -1⟩]⟩
    (Machine.start p).runToEnd.2.history.contains 1 = false ∧
      p.replace? 1 ⟨.jmp, 0⟩ = some ⟨#[⟨.jmp, 2⟩, ⟨.jmp, 0⟩, ⟨.acc, 1⟩, ⟨.jmp, -1⟩]⟩ ∧
      (⟨#[⟨.jmp, 2⟩, ⟨.jmp, 0⟩, ⟨.acc, 1⟩, ⟨.jmp, -1⟩]⟩ : Program).outcome = p.outcome ∧
      p.run .noMoreInstructions = none ∧ p.findFix = .ok ⟨3, ⟨.jmp, -1⟩, ⟨.nop, -1⟩, 1, 3⟩ ∧
      (∃ k < p.outcome.steps, (p.stateAt k).position = 3) ∧
      ∃ n, p.searchFix (p.mutableIndices.filter fun j =>
          (Machine.start p).runToEnd.2.history.contains j) 0 =
        .ok ⟨3, ⟨.jmp, -1⟩, ⟨.nop, -1⟩, 1, n⟩ := by
  intro p
  obtain ⟨-, hkeep, hsearch⟩ := outcome_depends_on_executed p
  have hi : (Machine.start p).runToEnd.2.history.contains 1 = false := by decide
  have hq : p.replace? 1 ⟨.jmp, 0⟩ = some ⟨#[⟨.jmp, 2⟩, ⟨.jmp, 0⟩, ⟨.acc, 1⟩, ⟨.jmp, -1⟩]⟩ := by
    decide
  have hnone : p.run .noMoreInstructions = none := by decide
  -- evaluated on the program literal: through the let-bound name the check does not finish
  have hfix : p.findFix = .ok ⟨3, ⟨.jmp, -1⟩, ⟨.nop, -1⟩, 1, 3⟩ :=
    (rfl : (⟨#[⟨.jmp, 2⟩, ⟨.nop, 0⟩, ⟨.acc, 1⟩, ⟨.jmp, -1⟩]⟩ : Program).findFix = _)
  obtain ⟨hexec, n, hn⟩ := hsearch hnone _ hfix
  exact ⟨hi, hq, hkeep 1 _ _ hi hq, hnone, hfix, hexec, n, hn⟩

end Program

end BootCode
