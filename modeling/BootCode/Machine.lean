import BootCode.Program
import BootCode.Machine.History
/-!
# The machine

A machine runs one program from position 0 with a zero accumulator, one instruction per step.
Before each step it looks up the instruction at the current position: when there is none,
control has left the program and the machine halts with its state unchanged. Otherwise the
instruction runs; when the new position was visited before, the machine stops on that revisit,
and otherwise it marks the new position and goes on. A stopped machine answers every further
step with the step it stopped on.
-/

namespace BootCode

/-- What one step of a machine did. -/
inductive Step where
  /-- An instruction ran and control moved to a position not visited before. -/
  | moved (s : State)
  /-- The instruction just run sends control back to a visited position. -/
  | revisit (s : State)
  /-- Control is outside the program. -/
  | halted (s : State)
  deriving DecidableEq, Repr

namespace Step

/-- The state a step carries. -/
def state : Step → State
  | .moved s | .revisit s | .halted s => s

/-- The state a step leads to; a halt leads nowhere, as control has already left. -/
def next? : Step → Option State
  | .halted _ => none
  | st => some st.state

/-- Whether the machine stops with this step. -/
def isTerminal : Step → Bool
  | .moved _ => false
  | _ => true

end Step

/-- A run in progress over one program. -/
structure Machine where
  program : Program
  state : State
  history : History
  /-- The number of instructions executed so far. -/
  steps : Nat
  /-- The step the machine stopped on, once it has stopped. -/
  finished : Option Step
  deriving Repr

namespace Machine

/-- A machine about to run a program from the initial state. -/
def start (p : Program) : Machine :=
  ⟨p, .initial, History.start p.size, 0, none⟩

/-- The instruction at the current position, if control is inside the program. -/
def current? (m : Machine) : Option Instruction :=
  (m.state.indexWithin m.program.size).bind m.program.get?

/-- Executes one instruction and reports what happened, with the machine after it. -/
def step (m : Machine) : Step × Machine :=
  match m.finished with
  | some done => (done, m)
  | none =>
    match m.current? with
    | none => (.halted m.state, { m with finished := some (.halted m.state) })
    | some i =>
      let next := i.execute m.state
      let m := { m with state := next, steps := m.steps + 1 }
      if m.history.contains next.position then
        (.revisit next, { m with finished := some (.revisit next) })
      else
        (.moved next, { m with history := (m.history.insert next.position).2 })

/-- Each of `n` further steps, with the machine after it. -/
def stepMany : Nat → Machine → List (Step × Machine)
  | 0, _ => []
  | n + 1, m =>
    let (st, m') := m.step
    (st, m') :: stepMany n m'

/-- Steps until the machine stops, with `fuel` steps more at most, and gives the step it
stopped on with the machine after it. -/
def settle : Nat → Machine → Step × Machine
  | 0, m => m.step
  | fuel + 1, m =>
    let (st, m') := m.step
    if st.isTerminal then (st, m') else settle fuel m'

/-- The steps until the machine stops, the stopping step included, with `fuel` steps more at
most. -/
def journey : Nat → Machine → List Step
  | 0, _ => []
  | fuel + 1, m =>
    let (st, m') := m.step
    if st.isTerminal then [st] else st :: journey fuel m'

/-- A bound on the steps any run takes: each step that does not stop marks a new position or
leaves the program, and the step after leaving halts. -/
def budget (m : Machine) : Nat :=
  m.program.size + 1

end Machine

-- ---------------------------------------------------------------------------
-- Runs to the end
-- ---------------------------------------------------------------------------

/-- The two ways a run stops. -/
inductive Ending where
  /-- Control is about to return to a visited position. -/
  | duplicateInstruction
  /-- Control left the program. -/
  | noMoreInstructions
  deriving DecidableEq, Repr

/-- How a run stopped: the ending, the state it stopped in and the instructions executed. -/
structure Outcome where
  condition : Ending
  state : State
  steps : Nat
  deriving DecidableEq, Repr

namespace Machine

/-- Runs until the machine stops; a revisit ends with `duplicateInstruction`, a halt with
`noMoreInstructions`. -/
def runToEnd (m : Machine) : Outcome × Machine :=
  let (st, m') := m.settle m.budget
  let condition := match st with
    | .revisit _ => Ending.duplicateInstruction
    | _ => Ending.noMoreInstructions
  (⟨condition, st.state, m'.steps⟩, m')

/-- The states of a run in order: the state it starts in, then the state after each
instruction executed, the last being the state it stops in. A machine that has stopped takes
no further step, so it lists its own state alone. -/
def trace (m : Machine) : List State :=
  m.state :: match m.finished with
    | some _ => []
    | none => (m.journey m.budget).filterMap Step.next?

end Machine

namespace Program

/-- How a run of the program from the initial state stops. -/
def outcome (p : Program) : Outcome :=
  (Machine.start p).runToEnd.1

/-- The accumulator when a run of the program stops with `target`, and `none` when it stops
the other way. -/
def run (p : Program) (target : Ending) : Option Int :=
  let o := p.outcome
  if o.condition = target then some o.state.accumulator else none

end Program

end BootCode
