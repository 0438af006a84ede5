import BootCode.Text.Quoted
/-!
# Faults

Everything that can go wrong in reading, changing, running or repairing a program, as one
inductive type, and the message of each fault. A fault about a line of program text carries the
number of that line, counted from 1, or 0 for a line read on its own.
-/

namespace BootCode

/-- What went wrong. -/
inductive Fault where
  /-- A line of program text is not an instruction. -/
  | invalidInstruction (line : Nat) (text : String) (reason : String)
  /-- An instruction that cannot be flipped, with its index when it sits in a program. -/
  | unflippable (index : Option Nat) (instruction : String)
  /-- No single flip makes the program run off its end, after trying this many. -/
  | noFixFound (candidates : Nat)
  /-- Settings could not be read or written. -/
  | serialization (message : String)
  /-- A position or accumulator left the signed 64-bit range. -/
  | overflow
  deriving DecidableEq, Repr

namespace Fault

/-- Gives a fault about a line the number of that line; other faults stay as they are. -/
def atLine (line : Nat) : Fault → Fault
  | .invalidInstruction _ text reason => .invalidInstruction line text reason
  | f => f

/-- The message of a fault. The text of a bad line is quoted, the reason is not. -/
def message : Fault → String
  | .invalidInstruction line text reason =>
    "Invalid instruction on line " ++ toString line ++ " (" ++ Text.quoteString text ++ "): " ++
      reason
  | .unflippable none instruction => "Cannot flip instruction `" ++ instruction ++ "`"
  | .unflippable (some i) instruction =>
    "Cannot flip instruction `" ++ instruction ++ "` at index " ++ toString i
  | .noFixFound candidates =>
    "No fix found after trying " ++ toString candidates ++ " candidate programs"
  | .serialization message => "Serialization error: " ++ message
  | .overflow => "attempt to add with overflow"

theorem atLine_invalidInstruction (line n : Nat) (text reason : String) :
    (invalidInstruction n text reason).atLine line = invalidInstruction line text reason := rfl

end Fault

end BootCode
