import BootCode.Text.Blank
import BootCode.Numeral
import BootCode.Fault
/-!
# Instructions and machine states

An instruction is an operation, `nop`, `acc` or `jmp`, with a signed 32-bit argument. A machine
state is the position of the next instruction and the accumulator. Executing `nop` moves on by
one, `acc` adds its argument to the accumulator and moves on by one, and `jmp` moves by its
argument. An instruction is written as its mnemonic, a space and its argument with an explicit
sign; it is read back from a line of exactly two words.
-/

namespace BootCode

-- ---------------------------------------------------------------------------
-- Operations
-- ---------------------------------------------------------------------------

/-- The three operations. -/
inductive Opcode where
  | nop
  | acc
  | jmp
  deriving DecidableEq, Repr

namespace Opcode

/-- The name an operation is written with. -/
def mnemonic : Opcode → String
  | .nop => "nop"
  | .acc => "acc"
  | .jmp => "jmp"

/-- The operation written with a name; names are matched exactly, case included. -/
def ofMnemonic? (s : String) : Option Opcode :=
  if s = "nop" then some .nop
  else if s = "acc" then some .acc
  else if s = "jmp" then some .jmp
  else none

/-- `nop` and `jmp` can be swapped for each other; `acc` cannot. -/
def isMutable : Opcode → Bool
  | .acc => false
  | _ => true

/-- Reads an operation name on its own; an unknown name is a fault of line 0. -/
def parse (s : String) : Except Fault Opcode :=
  match ofMnemonic? s with
  | some op => .ok op
  | none => .error (.invalidInstruction 0 s ("unknown mnemonic '" ++ s ++ "'"))

theorem ofMnemonic?_mnemonic (op : Opcode) : ofMnemonic? op.mnemonic = some op := by
  cases op <;> decide

end Opcode

-- ---------------------------------------------------------------------------
-- Machine states
-- ---------------------------------------------------------------------------

/-- The position of the next instruction and the accumulator. -/
structure State where
  position : Int
  accumulator : Int
  deriving DecidableEq, Repr

namespace State

/-- Position 0, accumulator 0. -/
def initial : State := ⟨0, 0⟩

/-- The position as an index into a program of `len` instructions, or `none` when control has
left the program. -/
def indexWithin (s : State) (len : Nat) : Option Nat :=
  if 0 ≤ s.position ∧ s.position < len then some s.position.toNat else none

/-- A state written as `pos=P acc=A`. -/
def render (s : State) : String :=
  "pos=" ++ toString s.position ++ " acc=" ++ toString s.accumulator

theorem indexWithin_eq_some_iff (s : State) (len i : Nat) :
    s.indexWithin len = some i ↔ s.position = i ∧ i < len := by
  unfold indexWithin
  split
  · rename_i hin
    -- inside the program the index is the position read as a natural number
    rw [Option.some.injEq]
    constructor
    · rintro rfl
      omega
    · rintro ⟨hi, -⟩
      omega
  · rename_i hout
    simp only [reduceCtorEq, false_iff, not_and]
    intro hi
    omega

end State

/-- Whether an integer fits the signed 64-bit range. -/
def fitsWord (x : Int) : Bool :=
  -9223372036854775808 ≤ x && x < 9223372036854775808

-- ---------------------------------------------------------------------------
-- Instructions
-- ---------------------------------------------------------------------------

/-- An operation with its argument. -/
structure Instruction where
  op : Opcode
  arg : Int32
  deriving DecidableEq, Repr

/-- A number with an explicit sign: `+0`, `+5`, `-5`. -/
def signed (n : Int) : String :=
  if 0 ≤ n then "+" ++ toString n else toString n

/-- Why a line is not an instruction. -/
inductive LineFault where
  /-- The line does not have exactly two words. -/
  | shape
  /-- The first word is no operation name. -/
  | mnemonic (word : String)
  /-- The second word is no numeral of the 32-bit signed range. -/
  | operand (word : String) (fault : NumeralFault)
  deriving DecidableEq, Repr

/-- The reason given for each kind of bad line. -/
def LineFault.reason : LineFault → String
  | .shape => "expected `<mnemonic> <signed integer>`"
  | .mnemonic word => "unknown mnemonic '" ++ word ++ "'"
  | .operand word fault => "invalid operand '" ++ word ++ "': " ++ fault.message

namespace Instruction

/-- The instruction written as its mnemonic and its signed argument: `jmp -4`, `nop +0`. -/
def render (i : Instruction) : String :=
  i.op.mnemonic ++ " " ++ signed i.arg.toInt

/-- Whether the instruction is a `nop` or a `jmp`. -/
def isMutable (i : Instruction) : Bool :=
  i.op.isMutable

/-- The state after executing the instruction, in exact arithmetic. -/
def execute (i : Instruction) (s : State) : State :=
  match i.op with
  | .nop => ⟨s.position + 1, s.accumulator⟩
  | .acc => ⟨s.position + 1, s.accumulator + i.arg.toInt⟩
  | .jmp => ⟨s.position + i.arg.toInt, s.accumulator⟩

/-- The state after executing the instruction, where each sum that is formed must stay in the
signed 64-bit range: `nop` and `jmp` leave the accumulator untouched, so only `acc` checks it. -/
def execute? (i : Instruction) (s : State) : Except Fault State :=
  let next := i.execute s
  let checked := match i.op with
    | .nop | .jmp => fitsWord next.position
    | .acc => fitsWord next.position && fitsWord next.accumulator
  if checked then .ok next else .error .overflow

/-- Swaps `nop` and `jmp`, keeping the argument; `acc` has no swap. -/
def flip? (i : Instruction) : Option Instruction :=
  match i.op with
  | .nop => some ⟨.jmp, i.arg⟩
  | .jmp => some ⟨.nop, i.arg⟩
  | .acc => none

/-- `flip?`, where an `acc` is a fault without an index. -/
def flip (i : Instruction) : Except Fault Instruction :=
  match i.flip? with
  | some j => .ok j
  | none => .error (.unflippable none i.render)

/-- Reads an instruction from a line: exactly two words, an operation name, then a numeral
of the 32-bit signed range. The checks run in that order. -/
def read (line : List Char) : Except LineFault Instruction :=
  match Text.words line with
  | [m, v] =>
    match Opcode.ofMnemonic? (String.ofList m) with
    | none => .error (.mnemonic (String.ofList m))
    | some op =>
      match Numeral.readInt32 v with
      | .error e => .error (.operand (String.ofList v) e)
      | .ok n => .ok ⟨op, n⟩
  | _ => .error .shape

/-- Reads an instruction from a line on its own; a bad line is a fault of line 0. -/
def parse (line : String) : Except Fault Instruction :=
  match read line.toList with
  | .ok i => .ok i
  | .error e => .error (.invalidInstruction 0 line e.reason)

theorem execute_nop (a : Int32) (s : State) :
    execute ⟨.nop, a⟩ s = ⟨s.position + 1, s.accumulator⟩ := rfl

theorem execute_acc (a : Int32) (s : State) :
    execute ⟨.acc, a⟩ s = ⟨s.position + 1, s.accumulator + a.toInt⟩ := rfl

theorem execute_jmp (a : Int32) (s : State) :
    execute ⟨.jmp, a⟩ s = ⟨s.position + a.toInt, s.accumulator⟩ := rfl

theorem flip?_eq_none_iff (i : Instruction) : i.flip? = none ↔ i.op = .acc := by
  rcases i with ⟨op, a⟩
  cases op <;> simp [flip?]

/-- A flip keeps the argument and swaps `nop` and `jmp`. -/
theorem flip?_eq_some_iff (i j : Instruction) :
    i.flip? = some j ↔ j.arg = i.arg ∧ (i.op = .nop ∧ j.op = .jmp ∨ i.op = .jmp ∧ j.op = .nop) := by
  rcases i with ⟨op, a⟩
  rcases j with ⟨op', b⟩
  cases op <;> cases op' <;> simp [flip?, eq_comm]

/-- Flipping twice gives the instruction back. -/
theorem flip?_flip? {i j : Instruction} (h : i.flip? = some j) : j.flip? = some i := by
  rcases i with ⟨op, a⟩
  cases op <;> simp only [flip?, Option.some.injEq, reduceCtorEq] at h <;> subst h <;> rfl

theorem flip_eq_ok_iff (i j : Instruction) : i.flip = .ok j ↔ i.flip? = some j := by
  unfold flip
  cases i.flip? <;> simp

/-- A flip changes the instruction. -/
theorem ne_of_flip? {i j : Instruction} (h : i.flip? = some j) : j ≠ i := by
  rw [flip?_eq_some_iff] at h
  rintro rfl
  rcases h with ⟨-, ⟨h1, h2⟩ | ⟨h1, h2⟩⟩ <;> rw [h1] at h2 <;> cases h2

theorem isMutable_eq_true_iff (i : Instruction) : i.isMutable = true ↔ i.op ≠ .acc := by
  rcases i with ⟨op, a⟩
  cases op <;> simp [isMutable, Opcode.isMutable]

end Instruction

end BootCode
