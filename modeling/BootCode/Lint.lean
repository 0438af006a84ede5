import BootCode.Program
/-!
# Jump diagnostics

Static checks on the jumps of a program, which never change how it runs: a `jmp +0` loops on
itself, and a jump whose target lies before the start or beyond the end of the program leaves
it. Landing exactly one past the last instruction is a clean exit and is not reported.
-/

namespace BootCode

/-- What is wrong with a jump. -/
inductive DiagnosticKind where
  /-- The jump lands outside the program, at `target`. -/
  | jumpOutOfRange (target : Int)
  /-- The jump does not move. -/
  | selfLoop
  deriving DecidableEq, Repr

/-- A diagnostic about the instruction at an index. -/
structure Diagnostic where
  index : Nat
  instruction : Instruction
  kind : DiagnosticKind
  deriving DecidableEq, Repr

namespace Diagnostic

/-- The diagnostic in words. -/
def render (d : Diagnostic) : String :=
  match d.kind with
  | .jumpOutOfRange target =>
    d.instruction.render ++ " at " ++ toString d.index ++ " jumps to " ++ toString target ++
      ", outside the program"
  | .selfLoop => d.instruction.render ++ " at " ++ toString d.index ++ " loops on itself"

/-- The diagnostic of the instruction at index `i` of a program of `len` instructions, if
any: only jumps are checked. -/
def ofInstruction? (len i : Nat) (x : Instruction) : Option Diagnostic :=
  match x.op with
  | .jmp =>
    if x.arg.toInt = 0 then some ⟨i, x, .selfLoop⟩
    else
      let target := (i : Int) + x.arg.toInt
      if 0 ≤ target ∧ target ≤ len then none else some ⟨i, x, .jumpOutOfRange target⟩
  | _ => none

end Diagnostic

/-- The diagnostics of a program, in ascending order of index. -/
def Program.diagnostics (p : Program) : List Diagnostic :=
  (p.instructions.toList.zipIdx).filterMap fun (x, i) => Diagnostic.ofInstruction? p.size i x

end BootCode
