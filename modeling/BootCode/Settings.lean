/-!
# Settings

The choices a session is run with: the format answers are written in, which of the two answers
to compute, the program file to read (standard input when there is none) and a log filter.
Format and part names are matched after ASCII lowercasing.
-/

namespace BootCode

/-- How answers are written. -/
inductive OutputFormat where
  | text
  | json
  deriving DecidableEq, Repr

/-- Which answers to compute. -/
inductive Parts where
  | both
  | one
  | two
  deriving DecidableEq, Repr

/-- A name that is no format or no choice of parts, as given after lowercasing. -/
inductive ChoiceFault where
  | format (given : String)
  | parts (given : String)
  deriving DecidableEq, Repr

/-- The message of a bad choice. -/
def ChoiceFault.message : ChoiceFault → String
  | .format given => "unknown output format '" ++ given ++ "' (expected text or json)"
  | .parts given => "unknown part '" ++ given ++ "' (expected both, 1 or 2)"

/-- Lowercases the ASCII letters of a text and leaves all other characters as they are. -/
def asciiLower (s : String) : String :=
  s.map Char.toLower

namespace OutputFormat

/-- Reads a format name: `text` or `json`, in any case of ASCII letters. -/
def parse (s : String) : Except ChoiceFault OutputFormat :=
  let t := asciiLower s
  if t = "text" then .ok .text
  else if t = "json" then .ok .json
  else .error (.format t)

/-- The name of a format. -/
def name : OutputFormat → String
  | .text => "text"
  | .json => "json"

end OutputFormat

namespace Parts

/-- Reads a choice of parts: `both`, `1` or `one`, `2` or `two`, in any case of ASCII
letters. -/
def parse (s : String) : Except ChoiceFault Parts :=
  let t := asciiLower s
  if t = "both" then .ok .both
  else if t = "1" ∨ t = "one" then .ok .one
  else if t = "2" ∨ t = "two" then .ok .two
  else .error (.parts t)

/-- The short name of a choice of parts: `both`, `1` or `2`. -/
def shortName : Parts → String
  | .both => "both"
  | .one => "1"
  | .two => "2"

/-- The long name of a choice of parts: `both`, `one` or `two`. -/
def name : Parts → String
  | .both => "both"
  | .one => "one"
  | .two => "two"

/-- Whether the first answer is computed. -/
def includesOne : Parts → Bool
  | .two => false
  | _ => true

/-- Whether the second answer is computed. -/
def includesTwo : Parts → Bool
  | .one => false
  | _ => true

end Parts

/-- The settings of a session. -/
structure Settings where
  /-- The program file to read; standard input when there is none. -/
  inputPath : Option String
  format : OutputFormat
  logFilter : String
  parts : Parts
  deriving DecidableEq, Repr

/-- Answers in text, both parts, program from standard input. -/
def Settings.default : Settings :=
  ⟨none, .text, "warn,handheld_vm=info", .both⟩

end BootCode
