import BootCode.Proofs.Run
/-!
# The trace of a run

The trace of a machine lists the state it starts in and then the state of each step that does
not halt, until the machine stops. A halt carries the state the last step moved to, so leaving
it out lists that state once; the revisit that stops a run carries the state it leads back to,
which is listed. From the start the trace is therefore exactly the states of the plain run up to
its first stopping state: one more than the instructions the run executes, from the initial
state to the state the run stops in.
-/

namespace BootCode

namespace Machine

theorem journey_succ (m : Machine) (fuel : Nat) :
    m.journey (fuel + 1) =
      if m.step.1.isTerminal then [m.step.1] else m.step.1 :: m.step.2.journey fuel := rfl

/-- A running machine lists its state, then the state of every step up to the one that stops
it, leaving out a halt. -/
theorem trace_of_running {m : Machine} (hf : m.finished = none) :
    m.trace = m.state :: (m.journey m.budget).filterMap Step.next? := by
  simp only [trace, hf]

/-- A stopped machine lists its state alone. -/
theorem trace_of_finished {m : Machine} {d : Step} (hf : m.finished = some d) :
    m.trace = [m.state] := by
  simp only [trace, hf]

/-- After the revisit that stops it, a `jmp +0` machine lists the revisited state once. -/
example : ((start ⟨#[⟨.jmp, 0⟩]⟩).after 1).trace = [⟨0, 0⟩] := by
  decide

/-- With fuel beyond the first step that stops the machine, the journey lists the steps up to
that one. -/
theorem journey_eq {m : Machine} {K fuel : Nat}
    (hK : ∀ i < K, (m.after i).step.1.isTerminal = false)
    (ht : (m.after K).step.1.isTerminal = true) (hfuel : K < fuel) :
    m.journey fuel = (List.range (K + 1)).map fun i => (m.after i).step.1 := by
  induction K generalizing m fuel with
  | zero =>
    obtain ⟨fuel, rfl⟩ : ∃ f, fuel = f + 1 := ⟨fuel - 1, by omega⟩
    rw [after_zero] at ht
    rw [journey_succ, if_pos ht]
    rfl
  | succ K ih =>
    obtain ⟨fuel, rfl⟩ : ∃ f, fuel = f + 1 := ⟨fuel - 1, by omega⟩
    have h0 : m.step.1.isTerminal = false := hK 0 (by omega)
    have hK' : ∀ i < K, (m.step.2.after i).step.1.isTerminal = false := by
      intro i hi
      rw [← after_succ']
      exact hK (i + 1) (by omega)
    rw [journey_succ, h0, if_neg Bool.false_ne_true, ih hK' (by rwa [← after_succ']) (by omega),
      List.range_succ_eq_map (n := K + 1), List.map_cons, List.map_map]
    -- the steps after the first are those of the machine one step on
    congr 1

/-- From the start, the trace lists the states of the plain run up to its first stopping
state. -/
theorem start_trace (p : Program) :
    ∃ E, IsLeast {k | p.StopsAt k} E ∧ (start p).trace = (List.range (E + 1)).map p.stateAt := by
  obtain ⟨K, E, hE, hEn, hmoved, hlast, -, hKE⟩ := start_run p
  have hjourney : (start p).journey (start p).budget =
      (List.range (K + 1)).map fun i => ((start p).after i).step.1 := by
    refine journey_eq (fun i hi => by rw [hmoved i hi]; rfl) (by simp [hlast]) ?_
    simp only [budget, start]
    split at hKE <;> omega
  -- the moving steps carry the states after the start, the stopping step the last one unless
  -- it is a halt
  have hmap : (List.range K).map (fun i => ((start p).after i).step.1) =
      (List.range K).map fun i => .moved (p.stateAt (i + 1)) :=
    List.map_congr_left fun i hi => hmoved i (List.mem_range.1 hi)
  refine ⟨E, hE, ?_⟩
  rw [trace_of_running rfl, hjourney, List.range_succ, List.map_append, hmap,
    List.filterMap_append,
    List.filterMap_map, List.map_singleton, hlast, List.range_succ_eq_map, List.map_cons]
  simp only [start, Program.stateAt_zero, List.cons.injEq, true_and]
  by_cases hin : p.Inside (p.stateAt E)
  · rw [Program.stopStep, if_pos hin]
    rw [if_pos hin] at hKE
    subst hKE
    simp [List.range_succ, Function.comp_def, Step.next?, Step.state]
  · rw [Program.stopStep, if_neg hin]
    rw [if_neg hin] at hKE
    subst hKE
    simp [Function.comp_def, Step.next?, Step.state]

end Machine

namespace Program

/-- The trace of a run from the start is the plain run up to its first stopping state: one
state more than the instructions the run executes, from the initial state to the state it stops
in. It is the initial state alone exactly for the empty program. -/
theorem trace_eq_run (p : Program) :
    ∃ m, IsLeast {k | p.StopsAt k} m ∧
      (Machine.start p).trace = (List.range (m + 1)).map p.stateAt ∧
      (Machine.start p).trace.length = p.outcome.steps + 1 ∧
      (Machine.start p).trace.head? = some State.initial ∧
      (Machine.start p).trace.getLast? = some p.outcome.state ∧
      ((Machine.start p).trace = [State.initial] ↔ p.size = 0) := by
  obtain ⟨E, hE, htrace⟩ := Machine.start_trace p
  have hout := outcome_eq_of_isLeast hE
  refine ⟨E, hE, htrace, ?_, ?_, ?_, ?_⟩
  · simp [htrace, hout]
  · simp [htrace, List.range_succ_eq_map]
  · simp [htrace, hout, List.getLast?_range]
  · -- a single state is listed exactly when the plain run stops at once
    rw [htrace, ← stopsAt_zero_iff]
    constructor
    · intro h1
      have hlen := congrArg List.length h1
      simp only [List.length_map, List.length_range, List.length_singleton] at hlen
      have hE0 : E = 0 := by omega
      exact hE0 ▸ hE.1
    · intro h0
      have hE0 : E = 0 := Nat.le_zero.1 (hE.2 h0)
      subst hE0
      rfl

/-- The positions a looping run passes through, the revisited one last. -/
example : ((Machine.start ⟨#[⟨.acc, 1⟩, ⟨.jmp, 4⟩, ⟨.acc, 3⟩, ⟨.jmp, -3⟩, ⟨.acc, -99⟩,
    ⟨.acc, 1⟩, ⟨.jmp, -4⟩, ⟨.acc, 6⟩]⟩).trace.map State.position) = [0, 1, 5, 6, 2, 3, 0] := by
  decide

end Program

end BootCode
