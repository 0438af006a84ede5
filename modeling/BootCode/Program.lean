import BootCode.Text.Lines
import BootCode.Instruction
/-!
# Programs

A program is a sequence of instructions, indexed from 0. Its text has one instruction per
line; lines with nothing but blanks are skipped but still counted, and the first bad line
is reported with its number. Writing a program puts each instruction on a line of its own.
-/

namespace BootCode

/-- An ordered sequence of instructions. -/
structure Program where
  instructions : Array Instruction
  deriving DecidableEq, Repr

namespace Program

/-- The number of instructions. -/
def size (p : Program) : Nat :=
  p.instructions.size

/-- The instruction at an index, if there is one. -/
def get? (p : Program) (i : Nat) : Option Instruction :=
  p.instructions[i]?

/-- The indices of every `nop` and `jmp`, in ascending order. -/
def mutableIndices (p : Program) : List Nat :=
  (List.range p.size).filter fun i => (p.get? i).any Instruction.isMutable

/-- The program with the instruction at `i` replaced by `x`, or `none` when `i` is past the
end. -/
def replace? (p : Program) (i : Nat) (x : Instruction) : Option Program :=
  if h : i < p.size then some ⟨p.instructions.set i x h⟩ else none

/-- Each instruction on a line of its own, each line ended by a line feed. -/
def render (p : Program) : String :=
  String.join (p.instructions.toList.map fun i => i.render ++ "\n")

/-- Reads the lines of a program text from line number `n` on, pushing instructions onto
`acc`; a line with nothing but blanks is skipped, and the first bad line is the fault, the
fault of reading that line on its own given the line's number. -/
def readLines : Nat → List (List Char) → Array Instruction → Except Fault Program
  | _, [], acc => .ok ⟨acc⟩
  | n, l :: ls, acc =>
    if (Text.trim l).isEmpty then readLines (n + 1) ls acc
    else
      match (Instruction.parse (String.ofList l)).mapError (Fault.atLine n) with
      | .error e => .error e
      | .ok i => readLines (n + 1) ls (acc.push i)

/-- Reads a program text, one instruction per line, lines numbered from 1. -/
def parse (text : String) : Except Fault Program :=
  readLines 1 (Text.lines text.toList) #[]

/-- Whether reading the written form of the program gives the program back. -/
def reparses (p : Program) : Bool :=
  match parse p.render with
  | .ok q => decide (q = p)
  | .error _ => false

theorem size_replace? {p q : Program} {i : Nat} {x : Instruction} (h : p.replace? i x = some q) :
    q.size = p.size := by
  unfold replace? at h
  split at h
  · cases h
    exact Array.size_set ‹_›
  · cases h

theorem lt_size_of_get? {p : Program} {i : Nat} {x : Instruction} (h : p.get? i = some x) :
    i < p.size :=
  (Array.getElem?_eq_some_iff.1 h).1

theorem get?_eq_none_iff (p : Program) (i : Nat) : p.get? i = none ↔ p.size ≤ i :=
  Array.getElem?_eq_none_iff

/-- Programs with the same instruction at every index are equal. -/
theorem ext_get? {p q : Program} (h : ∀ i, q.get? i = p.get? i) : q = p := by
  cases p
  cases q
  congr
  exact Array.ext_getElem? h

/-- A replacement holds the new instruction at its index and the old ones everywhere else. -/
theorem get?_replace? {p q : Program} {i : Nat} {x : Instruction} (h : p.replace? i x = some q)
    (j : Nat) : q.get? j = if i = j then some x else p.get? j := by
  unfold replace? at h
  split at h
  · cases h
    exact Array.getElem?_set ‹_›
  · cases h

end Program

end BootCode
