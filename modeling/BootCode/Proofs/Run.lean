import Mathlib
import BootCode.Machine
import BootCode.Proofs.VisitedSet
/-!
# The machine runs the plain semantics

The plain run of a program starts in the initial state and executes, at each state, the
instruction at its position. It stops at the first state whose position is outside the program
or equal to that of an earlier state. The machine computes the same run with a flag per
instruction in place of the set of positions seen so far.

`Machine.Follows` says how a machine stands to the plain run after any number of steps: its
state is the state of the plain run after the instructions it has executed, its flags are set
exactly for the positions of those states that lie inside the program, and its stopping mark
is the reason the plain run stops there. Every step keeps it (`Machine.Follows.step`), so every
machine reached from the start follows the plain run, and the first terminal step of such a
machine comes after at most as many instructions as the program has.
-/

namespace BootCode

-- ---------------------------------------------------------------------------
-- The plain run
-- ---------------------------------------------------------------------------

namespace Program

/-- The instruction at the position of a state, when control is inside the program. -/
def fetch (p : Program) (s : State) : Option Instruction :=
  (s.indexWithin p.size).bind p.get?

/-- Whether the position of a state is inside the program. -/
def Inside (p : Program) (s : State) : Prop :=
  0 ≤ s.position ∧ s.position < p.size

instance (p : Program) (s : State) : Decidable (p.Inside s) :=
  inferInstanceAs (Decidable (_ ∧ _))

/-- One instruction of the plain run; a state outside the program stays as it is. -/
def next (p : Program) (s : State) : State :=
  match p.fetch s with
  | some i => i.execute s
  | none => s

/-- The state after `k` instructions of the plain run from the initial state. -/
def stateAt (p : Program) : Nat → State
  | 0 => .initial
  | k + 1 => p.next (p.stateAt k)

/-- State `k` of the plain run is at the position of an earlier state. -/
def Revisits (p : Program) (k : Nat) : Prop :=
  ∃ j < k, (p.stateAt j).position = (p.stateAt k).position

instance (p : Program) (k : Nat) : Decidable (p.Revisits k) :=
  inferInstanceAs (Decidable (∃ j < k, _))

/-- The plain run stops at state `k`: control has left the program, or has come back to a
position visited before. -/
def StopsAt (p : Program) (k : Nat) : Prop :=
  ¬ p.Inside (p.stateAt k) ∨ p.Revisits k

instance (p : Program) (k : Nat) : Decidable (p.StopsAt k) :=
  inferInstanceAs (Decidable (_ ∨ _))

/-- The ending of a run that stops at state `k`: a revisit inside the program, or leaving it. -/
def endingAt (p : Program) (k : Nat) : Ending :=
  if p.Inside (p.stateAt k) then .duplicateInstruction else .noMoreInstructions

/-- The step a machine stops on at state `k`: the revisit of it when it lies inside the
program, the halt on it otherwise. -/
def stopStep (p : Program) (k : Nat) : Step :=
  if p.Inside (p.stateAt k) then .revisit (p.stateAt k) else .halted (p.stateAt k)

@[simp] theorem isTerminal_stopStep (p : Program) (k : Nat) : (p.stopStep k).isTerminal = true := by
  unfold stopStep
  split <;> rfl

@[simp] theorem stateAt_zero (p : Program) : p.stateAt 0 = .initial := rfl

theorem stateAt_succ (p : Program) (k : Nat) : p.stateAt (k + 1) = p.next (p.stateAt k) :=
  rfl

theorem fetch_eq_none_iff (p : Program) (s : State) : p.fetch s = none ↔ ¬ p.Inside s := by
  unfold fetch Inside State.indexWithin
  split
  · rename_i hs
    simp only [Option.bind_some, get?, size, Array.getElem?_eq_none_iff] at hs ⊢
    omega
  · rename_i hs
    simp only [Option.bind_none, true_iff]
    exact hs

theorem next_of_fetch {p : Program} {s : State} {i : Instruction} (h : p.fetch s = some i) :
    p.next s = i.execute s := by
  simp [next, h]

theorem inside_of_fetch {p : Program} {s : State} {i : Instruction} (h : p.fetch s = some i) :
    p.Inside s := by
  by_contra hs
  rw [← fetch_eq_none_iff] at hs
  rw [hs] at h
  cases h

theorem not_stopsAt_iff (p : Program) (k : Nat) :
    ¬ p.StopsAt k ↔
      p.Inside (p.stateAt k) ∧ ∀ j < k, (p.stateAt j).position ≠ (p.stateAt k).position := by
  simp [StopsAt, Revisits]

/-- A stopping state with no stopping state before it is the first. -/
theorem isLeast_stopsAt {p : Program} {t : Nat} (hrun : ∀ k < t, ¬ p.StopsAt k)
    (hs : p.StopsAt t) : IsLeast {k | p.StopsAt k} t :=
  ⟨hs, fun k hk => Nat.le_of_not_lt fun hlt => hrun k hlt hk⟩

/-- The initial state is inside exactly the programs with an instruction. -/
theorem inside_initial_iff (p : Program) : p.Inside .initial ↔ 0 < p.size := by
  simp [Inside, State.initial]

end Program

-- ---------------------------------------------------------------------------
-- What one step of the machine does
-- ---------------------------------------------------------------------------

namespace Machine

theorem current?_eq (m : Machine) : m.current? = m.program.fetch m.state := rfl

/-- A stopped machine answers with the step it stopped on and stays as it is. -/
theorem step_of_finished {m : Machine} {d : Step} (h : m.finished = some d) : m.step = (d, m) := by
  simp [step, h]

/-- Outside the program the machine halts and keeps its state. -/
theorem step_of_outside {m : Machine} (hf : m.finished = none) (hc : m.current? = none) :
    m.step = (.halted m.state, { m with finished := some (.halted m.state) }) := by
  simp [step, hf, hc]

/-- An instruction that leads back to a visited position stops the machine on a revisit; the
state and the count move on, the flags stay. -/
theorem step_of_visited {m : Machine} {i : Instruction} (hf : m.finished = none)
    (hc : m.current? = some i) (hv : m.history.contains (i.execute m.state).position = true) :
    m.step = (.revisit (i.execute m.state),
      { m with state := i.execute m.state, steps := m.steps + 1,
               finished := some (.revisit (i.execute m.state)) }) := by
  simp [step, hf, hc, hv]

/-- An instruction that leads to a position not visited yet marks it and goes on. -/
theorem step_of_fresh {m : Machine} {i : Instruction} (hf : m.finished = none)
    (hc : m.current? = some i) (hv : m.history.contains (i.execute m.state).position = false) :
    m.step = (.moved (i.execute m.state),
      { m with state := i.execute m.state, steps := m.steps + 1,
               history := (m.history.insert (i.execute m.state).position).2 }) := by
  simp [step, hf, hc, hv]

/-- The machine after `k` further calls of `step`. -/
def after (m : Machine) (k : Nat) : Machine :=
  (fun m : Machine => m.step.2)^[k] m

@[simp] theorem after_zero (m : Machine) : m.after 0 = m := rfl

theorem after_succ (m : Machine) (k : Nat) : m.after (k + 1) = (m.after k).step.2 :=
  Function.iterate_succ_apply' _ k m

theorem after_succ' (m : Machine) (k : Nat) : m.after (k + 1) = m.step.2.after k :=
  Function.iterate_succ_apply _ k m

theorem after_add (m : Machine) (j k : Nat) : m.after (j + k) = (m.after k).after j :=
  Function.iterate_add_apply _ j k m

/-- A step that does not stop a running machine leaves it running, one instruction further. -/
theorem step_of_not_terminal {m : Machine} (hf : m.finished = none)
    (ht : m.step.1.isTerminal = false) :
    m.step.2.finished = none ∧ m.step.2.steps = m.steps + 1 := by
  cases hc : m.current? with
  | none =>
    rw [step_of_outside hf hc] at ht
    cases ht
  | some i =>
    cases hv : m.history.contains (i.execute m.state).position with
    | true =>
      rw [step_of_visited hf hc hv] at ht
      cases ht
    | false =>
      rw [step_of_fresh hf hc hv]
      exact ⟨hf, rfl⟩

/-- A step that stops the machine leaves it marked with that step. -/
theorem finished_of_terminal {m : Machine} (ht : m.step.1.isTerminal = true) :
    m.step.2.finished = some m.step.1 := by
  cases hf : m.finished with
  | some d =>
    rw [step_of_finished hf]
    exact hf
  | none =>
    cases hc : m.current? with
    | none => rw [step_of_outside hf hc]
    | some i =>
      cases hv : m.history.contains (i.execute m.state).position with
      | true => rw [step_of_visited hf hc hv]
      | false =>
        rw [step_of_fresh hf hc hv] at ht
        cases ht

/-- A stopped machine stays as it is. -/
theorem after_of_finished {m : Machine} {d : Step} (h : m.finished = some d) (k : Nat) :
    m.after k = m := by
  induction k with
  | zero => rfl
  | succ k ih => rw [after_succ, ih, step_of_finished h]

/-- While no step stops it, the machine executes one instruction per step. -/
theorem after_running {m : Machine} (hf : m.finished = none) {k : Nat}
    (hk : ∀ i < k, (m.after i).step.1.isTerminal = false) :
    (m.after k).finished = none ∧ (m.after k).steps = m.steps + k := by
  induction k with
  | zero => exact ⟨hf, rfl⟩
  | succ k ih =>
    obtain ⟨hf', hs'⟩ := ih fun i hi => hk i (by omega)
    obtain ⟨hf'', hs''⟩ := step_of_not_terminal hf' (hk k (by omega))
    rw [after_succ]
    exact ⟨hf'', by omega⟩

theorem settle_succ (m : Machine) (fuel : Nat) :
    m.settle (fuel + 1) = if m.step.1.isTerminal then m.step else m.step.2.settle fuel := rfl

/-- With fuel for the first step that stops the machine, settling ends on that step. -/
theorem settle_eq {m : Machine} {K fuel : Nat}
    (hK : ∀ i < K, (m.after i).step.1.isTerminal = false)
    (ht : (m.after K).step.1.isTerminal = true) (hfuel : K ≤ fuel) :
    m.settle fuel = (m.after K).step := by
  induction K generalizing m fuel with
  | zero =>
    cases fuel with
    | zero => rfl
    | succ fuel =>
      rw [after_zero] at ht ⊢
      rw [settle_succ, if_pos ht]
  | succ K ih =>
    obtain ⟨fuel, rfl⟩ : ∃ f, fuel = f + 1 := ⟨fuel - 1, by omega⟩
    have h0 : m.step.1.isTerminal = false := hK 0 (by omega)
    rw [settle_succ, h0, if_neg Bool.false_ne_true, after_succ']
    refine ih (fun i hi => ?_) (by rwa [← after_succ']) (by omega)
    rw [← after_succ']
    exact hK (i + 1) (by omega)

end Machine

-- ---------------------------------------------------------------------------
-- The invariant
-- ---------------------------------------------------------------------------

namespace Program

/-- The stopping mark a machine may carry after `t` instructions of the plain run: none while
it runs, where state `t` is no revisit; the halt on state `t` when it lies outside the program;
or the revisit of state `t`. -/
inductive Mark (p : Program) (t : Nat) : Option Step → Prop
  | running : ¬ p.Revisits t → Mark p t none
  | halted : ¬ p.Inside (p.stateAt t) → Mark p t (some (.halted (p.stateAt t)))
  | revisit : p.Revisits t → Mark p t (some (.revisit (p.stateAt t)))

end Program

/-- How a machine stands to the plain run of `p` after `steps` instructions: it is at state
`steps` of that run, no earlier state stops the run, its flags are set exactly for the
positions inside the program of the states up to `steps`, its count is their number, and its
stopping mark is the reason the plain run stops, if it has stopped. -/
structure Machine.Follows (p : Program) (m : Machine) : Prop where
  program : m.program = p
  state : m.state = p.stateAt m.steps
  running : ∀ k < m.steps, ¬ p.StopsAt k
  visited : ∀ x, m.history.contains x = true ↔
    (∃ i ≤ m.steps, (p.stateAt i).position = x) ∧ 0 ≤ x ∧ x < p.size
  size : m.history.visited.size = p.size
  count : m.history.count =
    if m.finished = none ∧ p.Inside (p.stateAt m.steps) then m.steps + 1 else m.steps
  mark : p.Mark m.steps m.finished

namespace Machine.Follows

variable {p : Program} {m : Machine}

/-- The states before the current one lie inside the program. -/
theorem inside_of_lt (h : m.Follows p) {k : Nat} (hk : k < m.steps) : p.Inside (p.stateAt k) :=
  ((p.not_stopsAt_iff k).1 (h.running k hk)).1

/-- The states before the current one are at pairwise different positions. -/
theorem position_ne (h : m.Follows p) {j k : Nat} (hjk : j < k) (hk : k < m.steps) :
    (p.stateAt j).position ≠ (p.stateAt k).position :=
  ((p.not_stopsAt_iff k).1 (h.running k hk)).2 j hjk

/-- A revisited position lies inside the program. -/
theorem inside_of_revisits (h : m.Follows p) (hr : p.Revisits m.steps) :
    p.Inside (p.stateAt m.steps) := by
  obtain ⟨j, hj, he⟩ := hr
  have hin := h.inside_of_lt hj
  unfold Program.Inside at hin ⊢
  rw [← he]
  exact hin

/-- The machine has executed no more instructions than the program has: it counts one flag
per instruction executed, and there are as many flags as instructions. -/
theorem steps_le (h : m.Follows p) : m.steps ≤ p.size := by
  have hle : m.history.count ≤ m.history.visited.size := Array.count_le_size
  rw [h.count, h.size] at hle
  split at hle <;> omega

/-- The start follows the plain run. -/
theorem start (p : Program) : (Machine.start p).Follows p where
  program := rfl
  state := rfl
  running := fun _ hk => absurd hk (Nat.not_lt_zero _)
  visited := by
    intro x
    have hc := History.contains_insertAll_start_iff p.size [] x
    simp only [History.insertAll, List.not_mem_nil, or_false] at hc
    simp only [Machine.start, hc, Nat.le_zero, exists_eq_left, Program.stateAt_zero,
      State.initial]
    constructor
    · rintro ⟨h0, hn, rfl⟩
      exact ⟨rfl, h0, hn⟩
    · rintro ⟨rfl, h0, hn⟩
      exact ⟨h0, hn, rfl⟩
  size := History.size_start p.size
  count := by
    simp [Machine.start, History.count_start, Program.inside_initial_iff]
  mark := .running (fun ⟨_, hj, _⟩ => absurd hj (Nat.not_lt_zero _))

/-- Each state up to the current one that lies inside the program is visited. -/
theorem contains_of_le (h : m.Follows p) {i : Nat} (hi : i ≤ m.steps)
    (hin : p.Inside (p.stateAt i)) : m.history.contains (p.stateAt i).position = true :=
  (h.visited _).2 ⟨⟨i, hi, rfl⟩, hin⟩

/-- The instruction the machine looks up is the one at the current state of the plain run. -/
theorem current? (h : m.Follows p) : m.current? = p.fetch (p.stateAt m.steps) := by
  rw [Machine.current?_eq, h.program, h.state]

/-- An instruction found at the current state: that state lies inside the program, and
executing the instruction gives the next state of the plain run. -/
theorem execute_current (h : m.Follows p) {i : Instruction} (hc : m.current? = some i) :
    p.Inside (p.stateAt m.steps) ∧ i.execute m.state = p.stateAt (m.steps + 1) := by
  have hfetch : p.fetch (p.stateAt m.steps) = some i := h.current? ▸ hc
  refine ⟨Program.inside_of_fetch hfetch, ?_⟩
  rw [Program.stateAt_succ, Program.next_of_fetch hfetch, h.state]

/-- From a current state inside the program, the next state of the plain run revisits
exactly when the machine has its position marked. -/
theorem revisits_succ_iff (h : m.Follows p) (hin : p.Inside (p.stateAt m.steps)) :
    p.Revisits (m.steps + 1) ↔
      m.history.contains (p.stateAt (m.steps + 1)).position = true := by
  constructor
  · rintro ⟨j, hj, he⟩
    rw [← he]
    apply h.contains_of_le (by omega)
    rcases Nat.lt_or_ge j m.steps with hlt | hge
    · exact h.inside_of_lt hlt
    · rwa [show j = m.steps by omega]
  · intro hc
    obtain ⟨⟨i, hi, he⟩, -⟩ := (h.visited _).1 hc
    exact ⟨i, by omega, he⟩

/-- The positions inside the program of the states up to the next one are those visited and
the next state's own, when it lies inside. -/
theorem visited_succ_iff (h : m.Follows p) (x : Int) :
    ((∃ i ≤ m.steps + 1, (p.stateAt i).position = x) ∧ 0 ≤ x ∧ x < p.size) ↔
      m.history.contains x = true ∨
        (x = (p.stateAt (m.steps + 1)).position ∧ 0 ≤ (p.stateAt (m.steps + 1)).position ∧
          (p.stateAt (m.steps + 1)).position < p.size) := by
  rw [h.visited]
  constructor
  · rintro ⟨⟨j, hj, rfl⟩, hr⟩
    rcases Nat.lt_or_ge j (m.steps + 1) with hlt | hge
    · exact .inl ⟨⟨j, by omega, rfl⟩, hr⟩
    · obtain rfl : j = m.steps + 1 := by omega
      exact .inr ⟨rfl, hr⟩
  · rintro (⟨⟨j, hj, he⟩, hr⟩ | ⟨rfl, hr⟩)
    · exact ⟨⟨j, by omega, he⟩, hr⟩
    · exact ⟨⟨m.steps + 1, le_refl _, rfl⟩, hr⟩

/-- A running machine is not at a revisit. -/
theorem not_revisits (h : m.Follows p) (hf : m.finished = none) : ¬ p.Revisits m.steps := by
  have hmark := h.mark
  rw [hf] at hmark
  cases hmark with
  | running hr => exact hr

/-- Executing the instruction at a current state inside the program that is no revisit keeps
every state up to the next one from stopping the run. -/
theorem running_succ (h : m.Follows p) (hf : m.finished = none)
    (hin : p.Inside (p.stateAt m.steps)) : ∀ k < m.steps + 1, ¬ p.StopsAt k := by
  intro k hk
  rcases Nat.lt_or_ge k m.steps with hlt | hge
  · exact h.running k hlt
  · rw [show k = m.steps by omega]
    exact fun hs => hs.elim (fun hout => hout hin) (h.not_revisits hf)

/-- The machine halts on a current state outside the program. -/
theorem halt (h : m.Follows p) (hf : m.finished = none) (hc : m.current? = none) :
    ({ m with finished := some (.halted m.state) } : Machine).Follows p := by
  have hout : ¬ p.Inside (p.stateAt m.steps) := by
    rw [← Program.fetch_eq_none_iff, ← h.current?]
    exact hc
  refine ⟨h.program, h.state, h.running, h.visited, h.size, ?_, ?_⟩
  · simp only [h.count, hf, hout]
    simp
  · simp only [h.state]
    exact .halted hout

/-- The machine stops on a revisit when the instruction leads back to a marked position. -/
theorem revisit (h : m.Follows p) (hf : m.finished = none) {i : Instruction}
    (hc : m.current? = some i) (hv : m.history.contains (i.execute m.state).position = true) :
    ({ m with state := i.execute m.state, steps := m.steps + 1,
               finished := some (.revisit (i.execute m.state)) } : Machine).Follows p := by
  obtain ⟨hin, hnext⟩ := h.execute_current hc
  rw [hnext] at hv ⊢
  refine ⟨h.program, rfl, h.running_succ hf hin, ?_, h.size, ?_, ?_⟩
  · -- the next position is marked already, so the flags stay
    intro x
    dsimp only
    rw [h.visited_succ_iff]
    refine ⟨.inl, fun hx => hx.elim id ?_⟩
    rintro ⟨rfl, -⟩
    exact hv
  · simp only [h.count, hf, hin]
    simp
  · exact .revisit ((h.revisits_succ_iff hin).2 hv)

/-- The machine marks a position it has not visited and goes on. -/
theorem fresh (h : m.Follows p) (hf : m.finished = none) {i : Instruction}
    (hc : m.current? = some i) (hv : m.history.contains (i.execute m.state).position = false) :
    ({ m with state := i.execute m.state, steps := m.steps + 1,
               history := (m.history.insert (i.execute m.state).position).2 } : Machine).Follows p := by
  obtain ⟨hin, hnext⟩ := h.execute_current hc
  rw [hnext] at hv ⊢
  refine ⟨h.program, rfl, h.running_succ hf hin, ?_, ?_, ?_, ?_⟩
  · intro x
    dsimp only
    rw [History.contains_insert, h.size]
    exact (h.visited_succ_iff x).symm
  · rw [History.size_insert]
    exact h.size
  · -- the mark answers yes exactly when the new position is inside the program
    have hfst : (m.history.insert (p.stateAt (m.steps + 1)).position).1 = true ↔
        p.Inside (p.stateAt (m.steps + 1)) := by
      rw [History.insert_fst_iff, h.size, hv]
      simp [Program.Inside]
    dsimp only
    rw [History.count_insert, h.count]
    by_cases hin' : p.Inside (p.stateAt (m.steps + 1))
    · simp [hf, hin, hin', hfst.2 hin']
    · have hno : (m.history.insert (p.stateAt (m.steps + 1)).position).1 = false := by
        simpa using mt hfst.1 hin'
      simp [hf, hin, hin', hno]
  · dsimp only
    rw [hf]
    refine .running fun hr => ?_
    have hc' := (h.revisits_succ_iff hin).1 hr
    rw [hv] at hc'
    cases hc'

/-- Every step keeps the machine on the plain run. -/
theorem step (h : m.Follows p) : m.step.2.Follows p := by
  cases hf : m.finished with
  | some d =>
    rw [Machine.step_of_finished hf]
    exact h
  | none =>
    cases hc : m.current? with
    | none =>
      rw [Machine.step_of_outside hf hc]
      exact h.halt hf hc
    | some i =>
      cases hv : m.history.contains (i.execute m.state).position with
      | true =>
        rw [Machine.step_of_visited hf hc hv]
        exact h.revisit hf hc hv
      | false =>
        rw [Machine.step_of_fresh hf hc hv]
        exact h.fresh hf hc hv

/-- Every machine reached by steps keeps to the plain run. -/
theorem after (h : m.Follows p) (k : Nat) : (m.after k).Follows p := by
  induction k with
  | zero => exact h
  | succ k ih =>
    rw [Machine.after_succ]
    exact ih.step

/-- What one step of a running machine does, in terms of the plain run: it halts at a state
outside the program, stops on the next state when that revisits, and otherwise moves to it. -/
theorem step_cases (h : m.Follows p) (hf : m.finished = none) :
    (¬ p.Inside (p.stateAt m.steps) ∧ m.step.1 = .halted (p.stateAt m.steps) ∧
      m.step.2.steps = m.steps) ∨
    (p.Inside (p.stateAt m.steps) ∧ p.Revisits (m.steps + 1) ∧
      m.step.1 = .revisit (p.stateAt (m.steps + 1)) ∧ m.step.2.steps = m.steps + 1) ∨
    (p.Inside (p.stateAt m.steps) ∧ ¬ p.Revisits (m.steps + 1) ∧
      m.step.1 = .moved (p.stateAt (m.steps + 1)) ∧ m.step.2.steps = m.steps + 1) := by
  cases hc : m.current? with
  | none =>
    have hout : ¬ p.Inside (p.stateAt m.steps) := by
      rw [← Program.fetch_eq_none_iff, ← h.current?]
      exact hc
    left
    rw [Machine.step_of_outside hf hc, h.state]
    exact ⟨hout, rfl, rfl⟩
  | some i =>
    obtain ⟨hin, hnext⟩ := h.execute_current hc
    right
    cases hv : m.history.contains (i.execute m.state).position with
    | true =>
      left
      rw [Machine.step_of_visited hf hc hv, hnext]
      rw [hnext] at hv
      exact ⟨hin, (h.revisits_succ_iff hin).2 hv, rfl, rfl⟩
    | false =>
      right
      rw [Machine.step_of_fresh hf hc hv, hnext]
      rw [hnext] at hv
      refine ⟨hin, fun hr => ?_, rfl, rfl⟩
      have hc' := (h.revisits_succ_iff hin).1 hr
      rw [hv] at hc'
      cases hc'

/-- A step of a running machine that does not stop it moves to the next state of the plain
run. -/
theorem step_moved (h : m.Follows p) (hf : m.finished = none)
    (ht : m.step.1.isTerminal = false) : m.step.1 = .moved (p.stateAt (m.steps + 1)) := by
  rcases h.step_cases hf with ⟨-, h1, -⟩ | ⟨-, -, h1, -⟩ | ⟨-, -, h1, -⟩
  · rw [h1] at ht
    cases ht
  · rw [h1] at ht
    cases ht
  · exact h1

/-- A running machine on the plain run stops within as many further steps as the program has
instructions left: each step that does not stop it executes one more instruction, and no
machine on the plain run executes more instructions than the program has. -/
theorem exists_first_terminal (h : m.Follows p) (hf : m.finished = none) :
    ∃ K ≤ p.size - m.steps, (∀ i < K, (m.after i).step.1.isTerminal = false) ∧
      (m.after K).step.1.isTerminal = true := by
  have hex : ∃ K, K ≤ p.size - m.steps ∧ (m.after K).step.1.isTerminal = true := by
    by_contra hno
    simp only [not_exists, not_and, Bool.not_eq_true] at hno
    have hrun := Machine.after_running hf (k := p.size - m.steps + 1)
      fun i hi => hno i (by omega)
    have hle := (h.after (p.size - m.steps + 1)).steps_le
    omega
  obtain ⟨hKle, hKt⟩ := Nat.find_spec hex
  refine ⟨Nat.find hex, hKle, fun i hi => ?_, hKt⟩
  have hmin := Nat.find_min hex hi
  simp only [not_and, Bool.not_eq_true] at hmin
  exact hmin (by omega)

end Machine.Follows

namespace Machine

/-- A run from the start: `K` steps that each move to the next state of the plain run, then
one step that stops the machine at the first stopping state `E` of the plain run, on a halt
when `E` lies outside the program and on the revisit of `E` otherwise. `E` is `K` after a
halt and `K + 1` after a revisit, and at most the length of the program. -/
theorem start_run (p : Program) :
    ∃ K E, IsLeast {k | p.StopsAt k} E ∧ E ≤ p.size ∧
      (∀ i < K, ((start p).after i).step.1 = .moved (p.stateAt (i + 1))) ∧
      ((start p).after K).step.1 = p.stopStep E ∧
      ((start p).after K).step.2.steps = E ∧
      E = K + (if p.Inside (p.stateAt E) then 1 else 0) := by
  have h0 := Follows.start p
  obtain ⟨K, -, hK, ht⟩ := h0.exists_first_terminal rfl
  -- up to the stopping step the machine runs and has executed one instruction per step
  have hrun : ∀ i ≤ K, ((start p).after i).finished = none ∧ ((start p).after i).steps = i := by
    intro i hi
    simpa [start] using after_running (m := start p) rfl fun j hj => hK j (by omega)
  have hmoved : ∀ i < K, ((start p).after i).step.1 = .moved (p.stateAt (i + 1)) := by
    intro i hi
    obtain ⟨hf, hs⟩ := hrun i hi.le
    rw [(h0.after i).step_moved hf (hK i hi), hs]
  obtain ⟨hf, hs⟩ := hrun K le_rfl
  have hA := h0.after K
  rcases hA.step_cases hf with ⟨hout, h1, h2⟩ | ⟨hin, hrev, h1, h2⟩ | ⟨-, -, h1, -⟩
  · -- a halt: the plain run stops at `K`, outside the program
    rw [hs] at hout h1 h2
    refine ⟨K, K, Program.isLeast_stopsAt (hs ▸ hA.running) (.inl hout), ?_, hmoved, ?_, h2, ?_⟩
    · simpa [hs] using hA.steps_le
    · simp [h1, hout, Program.stopStep]
    · simp [hout]
  · -- a revisit: the plain run stops at `K + 1`, inside the program
    rw [hs] at hin hrev h1 h2
    have hB := hA.step
    have hin' : p.Inside (p.stateAt (K + 1)) := h2 ▸ hB.inside_of_revisits (h2 ▸ hrev)
    refine ⟨K, K + 1, Program.isLeast_stopsAt ?_ (.inr hrev), h2 ▸ hB.steps_le, hmoved, ?_, h2, ?_⟩
    · have hr := hA.running_succ hf (by rw [hs]; exact hin)
      rw [hs] at hr
      exact hr
    · simp [h1, hin', Program.stopStep]
    · simp [hin']
  · rw [h1] at ht
    cases ht

end Machine

namespace Program

/-- The plain run stops. -/
theorem exists_isLeast_stopsAt (p : Program) : ∃ E, IsLeast {k | p.StopsAt k} E := by
  obtain ⟨-, E, hE, -⟩ := Machine.start_run p
  exact ⟨E, hE⟩

/-- The plain run stops after at most as many instructions as the program has. -/
theorem le_size_of_isLeast {p : Program} {E : Nat} (hE : IsLeast {k | p.StopsAt k} E) :
    E ≤ p.size := by
  obtain ⟨-, E', hE', hEn, -⟩ := Machine.start_run p
  rw [hE.unique hE']
  exact hEn

/-- The plain run stops at once exactly on the empty program. -/
theorem stopsAt_zero_iff (p : Program) : p.StopsAt 0 ↔ p.size = 0 := by
  simp [StopsAt, Revisits, stateAt_zero, inside_initial_iff]

end Program

-- ---------------------------------------------------------------------------
-- Runs to the end
-- ---------------------------------------------------------------------------

namespace Program

/-- A run of the program stops at the first stopping state of the plain run, with its ending. -/
theorem outcome_eq_of_isLeast {p : Program} {E : Nat} (hE : IsLeast {k | p.StopsAt k} E) :
    p.outcome = ⟨p.endingAt E, p.stateAt E, E⟩ := by
  obtain ⟨K, E', hE', hEn, hmoved, hlast, hsteps, hKE⟩ := Machine.start_run p
  obtain rfl := hE.unique hE'
  have hsettle : (Machine.start p).settle (Machine.start p).budget =
      ((Machine.start p).after K).step := by
    refine Machine.settle_eq (fun i hi => by rw [hmoved i hi]; rfl) (by simp [hlast]) ?_
    simp only [Machine.budget, Machine.start]
    split at hKE <;> omega
  -- the stopping step carries the first stopping state, and the machine after it its index
  generalize hrm : ((Machine.start p).after K).step = rm at hsettle hlast hsteps
  obtain ⟨r, M⟩ := rm
  dsimp only at hlast hsteps
  subst hlast hsteps
  rw [outcome, Machine.runToEnd, hsettle]
  by_cases hin : p.Inside (p.stateAt M.steps) <;> simp [endingAt, stopStep, hin, Step.state]

/-- The machine computes the plain run: a run from the start stops at the first stopping state
of the plain run, after at most as many instructions as the program has, with the ending of
that state; the answer for that ending is the accumulator there and the other answer is none. -/
theorem outcome_eq_first_stop (p : Program) :
    ∃ m, IsLeast {k | p.StopsAt k} m ∧ m ≤ p.size ∧
      p.outcome = ⟨p.endingAt m, p.stateAt m, m⟩ ∧
      (∀ target, p.run target =
        if target = p.endingAt m then some (p.stateAt m).accumulator else none) ∧
      (p.run .duplicateInstruction).isSome ≠ (p.run .noMoreInstructions).isSome := by
  obtain ⟨E, hE⟩ := p.exists_isLeast_stopsAt
  have hout := outcome_eq_of_isLeast hE
  refine ⟨E, hE, le_size_of_isLeast hE, hout, fun target => ?_, ?_⟩
  · simp only [run, hout]
    exact if_congr eq_comm rfl rfl
  · by_cases hin : p.Inside (p.stateAt E) <;> simp [run, hout, endingAt, hin]

/-- A revisit reports the state after the instruction that leads back: `acc` runs once more. -/
example : (⟨#[⟨.acc, 2⟩, ⟨.acc, 3⟩, ⟨.jmp, -2⟩]⟩ : Program).outcome =
    ⟨.duplicateInstruction, ⟨0, 5⟩, 3⟩ := by
  decide

end Program

namespace Machine

/-- Every machine reached from the start, after any number of steps, is at the state of the
plain run after the instructions it has executed, at most as many as the program has; those
were at pairwise different positions inside the program. Its flags mark exactly the positions
inside the program of the states so far, one more than the instructions executed while it runs
inside the program, and as many otherwise. Its steps move on up to one step that stops it,
which every further step answers again, leaving the machine as it is. -/
theorem reachable_invariant (p : Program) :
    (∀ k, let m := (start p).after k
      m.state = p.stateAt m.steps ∧ m.steps ≤ p.size ∧
      (∀ i < m.steps, p.Inside (p.stateAt i)) ∧
      (∀ i j, i < j → j < m.steps → (p.stateAt i).position ≠ (p.stateAt j).position) ∧
      (∀ x, m.history.contains x = true ↔
        (∃ i ≤ m.steps, (p.stateAt i).position = x) ∧ 0 ≤ x ∧ x < p.size) ∧
      m.history.count =
        if m.finished = none ∧ p.Inside (p.stateAt m.steps) then m.steps + 1 else m.steps) ∧
    ∃ K ≤ p.size, (∀ k < K, ((start p).after k).step.1.isTerminal = false) ∧
      ((start p).after K).step.1.isTerminal = true ∧
      ∀ k, K < k →
        ((start p).after k).step = (((start p).after K).step.1, (start p).after k) ∧
        (start p).after k = (start p).after (K + 1) := by
  refine ⟨fun k => ?_, ?_⟩
  · have h := (Follows.start p).after k
    exact ⟨h.state, h.steps_le, fun i hi => h.inside_of_lt hi,
      fun i j hij hj => h.position_ne hij hj, h.visited, h.count⟩
  · obtain ⟨K, E, -, hEn, hmoved, hlast, -, hKE⟩ := start_run p
    have ht : ((start p).after K).step.1.isTerminal = true := by simp [hlast]
    -- after its stopping step the machine carries the mark, and steps no longer change it
    have hfin := finished_of_terminal ht
    rw [← after_succ] at hfin
    refine ⟨K, by split at hKE <;> omega, fun k hk => by rw [hmoved k hk]; rfl, ht, fun k hk => ?_⟩
    obtain ⟨j, rfl⟩ : ∃ j, k = j + (K + 1) := ⟨k - (K + 1), by omega⟩
    rw [after_add, after_of_finished hfin, step_of_finished hfin]
    exact ⟨rfl, rfl⟩

/-- A jump onto itself stops on its first step, and every later step repeats that revisit. -/
example : ((start ⟨#[⟨.jmp, 0⟩]⟩).after 2).step.1 = .revisit ⟨0, 0⟩ ∧
    ((start ⟨#[⟨.jmp, 0⟩]⟩).after 2).steps = 1 := by
  decide

end Machine

end BootCode
