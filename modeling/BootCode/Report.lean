import BootCode.Repair
import BootCode.Settings
import BootCode.Json.Write
/-!
# Reports

The answers for one program: the accumulator when the unchanged program first revisits a
position, and the flip that repairs it. A part that was not asked for is left out. A report is
written as text, one line per part, or as an indented JSON object.
-/

namespace BootCode

/-- The repairing flip as reported: instructions in their written form. -/
structure FixReport where
  accumulator : Int
  index : Nat
  before : String
  after : String
  candidatesTried : Nat
  deriving DecidableEq, Repr

/-- The report of a fix. -/
def FixReport.ofFix (f : Fix) : FixReport :=
  ⟨f.accumulator, f.index, f.before.render, f.after.render, f.candidatesTried⟩

/-- The answers for one program; `none` for a part that was not asked for. The first part is
`some none` when the program ends without revisiting a position. -/
structure Report where
  partOne : Option (Option Int)
  partTwo : Option FixReport
  deriving DecidableEq, Repr

namespace Report

/-- One line per part present. -/
def renderText (r : Report) : String :=
  let one := match r.partOne with
    | some (some a) => "part one: " ++ toString a ++ "\n"
    | some none => "part one: none\n"
    | none => ""
  let two := match r.partTwo with
    | some f => "part two: " ++ toString f.accumulator ++ " (flipped " ++ f.before ++ " at " ++
        toString f.index ++ ")\n"
    | none => ""
  one ++ two

/-- An indented JSON object with the parts present; a first part without a revisit is
`null`. -/
def renderJson (r : Report) : String :=
  let one := match r.partOne with
    | some a => [("part_one", match a with | some a => toString a | none => "null")]
    | none => []
  let two := match r.partTwo with
    | some f => [("part_two", Json.prettyObject 1 [
        ("accumulator", toString f.accumulator),
        ("index", toString f.index),
        ("original", Json.quote f.before),
        ("replacement", Json.quote f.after),
        ("candidates_tried", toString f.candidatesTried)])]
    | none => []
  Json.prettyObject 0 (one ++ two)

/-- The report in the chosen format. -/
def render (r : Report) : OutputFormat → String
  | .text => r.renderText
  | .json => r.renderJson

/-- Computes the parts asked for, the first before the second; a program that no flip repairs
is a fault when the second part is asked for. -/
def solve (p : Program) (parts : Parts) : Except Fault Report := do
  let one := if parts.includesOne then some (p.run .duplicateInstruction) else none
  if parts.includesTwo then
    let f ← p.findFix
    pure ⟨one, some (FixReport.ofFix f)⟩
  else
    pure ⟨one, none⟩

end Report

end BootCode
