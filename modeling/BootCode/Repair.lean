import BootCode.Machine
/-!
# Repair by one flip

A looping program may be repaired by swapping one `nop` for a `jmp` or one `jmp` for a `nop`.
Each such swap gives a candidate program; the candidates are tried in ascending order of the
index flipped, and the first whose run leaves the program wins.
-/

namespace BootCode

/-- A program with exactly one instruction flipped. -/
structure Candidate where
  index : Nat
  /-- The instruction at the index before the flip. -/
  before : Instruction
  /-- The instruction at the index after the flip. -/
  after : Instruction
  program : Program
  deriving DecidableEq, Repr

/-- The flip that repairs a program and the accumulator its run ends with. -/
structure Fix where
  index : Nat
  /-- The instruction at the index before the flip. -/
  before : Instruction
  /-- The instruction at the index after the flip. -/
  after : Instruction
  accumulator : Int
  /-- The candidates run, the winning one included. -/
  candidatesTried : Nat
  deriving DecidableEq, Repr

namespace Program

/-- Flips the instruction at an index. An index past the end, or an `acc`, is a fault that
names the index. -/
def flipAt (p : Program) (i : Nat) : Except Fault Candidate :=
  if h : i < p.size then
    let x := p.instructions[i]
    match x.flip? with
    | some y => .ok ⟨i, x, y, ⟨p.instructions.set i y h⟩⟩
    | none => .error (.unflippable (some i) x.render)
  else
    .error (.unflippable (some i) ("<index " ++ toString i ++ " out of " ++ toString p.size ++ ">"))

/-- How many candidates the program has: one per `nop` and `jmp`. -/
def candidateCount (p : Program) : Nat :=
  p.mutableIndices.length

/-- One candidate per `nop` and `jmp`, in ascending order of index. -/
def candidates (p : Program) : List (Except Fault Candidate) :=
  p.mutableIndices.map p.flipAt

/-- Tries the flips at `is` in order, `tried` candidates having been run before. -/
def searchFix (p : Program) : List Nat → Nat → Except Fault Fix
  | [], tried => .error (.noFixFound tried)
  | i :: is, tried => do
    let c ← p.flipAt i
    match c.program.run .noMoreInstructions with
    | some a => .ok ⟨c.index, c.before, c.after, a, tried + 1⟩
    | none => searchFix p is (tried + 1)

/-- The first flip, by ascending index, whose program runs off its end. -/
def findFix (p : Program) : Except Fault Fix :=
  p.searchFix p.mutableIndices 0

/-- The accumulator of the first flip, by ascending index, whose program runs off its end. -/
def fixAccumulator (p : Program) : Except Fault Int :=
  p.findFix.map Fix.accumulator

end Program

end BootCode
