import BootCode.Settings
import BootCode.Json.Read
import BootCode.Json.Write
import BootCode.Fault
/-!
# Settings as JSON

Settings are written as a compact JSON object with the members `input_path` (a string or
`null`), `format` (`text` or `json`), `log_filter` and `parts` (`both`, `one` or `two`), in that
order. They are read back from such an object, where `input_path` may be left out, other
members are passed over and no member may come twice; or from an array of the four values in
that order. A format or a choice of parts is a string, or an object with that name as its
only member and `null` as its value.
-/

namespace BootCode

namespace Settings

open Json Json.Reader

/-- What a settings object is called in faults. -/
def kindName : String := "struct ConsoleConfig"

/-- The settings as a compact JSON object. -/
def toJson (s : Settings) : String :=
  Json.compactObject [
    ("input_path", match s.inputPath with | some p => Json.quote p | none => "null"),
    ("format", Json.quote s.format.name),
    ("log_filter", Json.quote s.logFilter),
    ("parts", Json.quote s.parts.name)]

-- ---------------------------------------------------------------------------
-- Reading the members
-- ---------------------------------------------------------------------------

/-- Reads a string; `expected` names what was expected when the value is of another kind. -/
def readString (expected : String) : Reader String := do
  match ← blanks with
  | none => failAhead .eofWhileParsingValue
  | some b => if b = 34 then do eat; string else invalidType expected

/-- The names in a fault about an unknown name: `a` or `b` for two, one of a list for more. -/
def oneOf (names : List String) : String :=
  match names with
  | [a] => "`" ++ a ++ "`"
  | [a, b] => "`" ++ a ++ "` or `" ++ b ++ "`"
  | _ => "one of " ++ ", ".intercalate (names.map fun n => "`" ++ n ++ "`")

/-- Reads the name of one of `names` and gives its index. -/
def readName (names : List String) : Reader Nat := do
  match ← blanks with
  | none => failAhead .eofWhileParsingValue
  | some b =>
    if b = 34 then do
      eat
      let s ← string
      match names.idxOf? s with
      | some i => pure i
      | none => fail (.custom ("unknown variant `" ++ s ++ "`, expected " ++ oneOf names))
    else invalidType "variant identifier"

/-- Reads `null`. -/
def readNull : Reader Unit := do
  match ← blanks with
  | none => failAhead .eofWhileParsingValue
  | some b => if b = 110 then do eat; ident [117, 108, 108] else invalidType "unit"

/-- Passes the colon between a member's name and its value. -/
def colon : Reader Unit := do
  match ← blanks with
  | some b => if b = 58 then eat else failAhead .expectedColon
  | none => failAhead .eofWhileParsingObject

/-- Reads the name of the only member of an object that holds a choice. The name is a key,
so anything but a string there is refused as a key; a closing brace, where the name must
be, is a missing value. -/
def readKeyName (names : List String) : Reader Nat := do
  match ← blanks with
  | none => failAhead .eofWhileParsingObject
  | some b =>
    if b = 34 then readName names
    else if b = 125 then failAhead .expectedSomeValue
    else failAhead .keyMustBeAString

/-- Reads one of `names`, as a string or as an object with the name as its only member and
`null` as its value. -/
def readChoice (names : List String) : Reader Nat := do
  match ← blanks with
  | none => failAhead .eofWhileParsingValue
  | some b =>
    if b = 123 then do
      eat
      let i ← readKeyName names
      colon
      readNull
      match ← blanks with
      | some b => if b = 125 then do eat; pure i else fail .expectedSomeValue
      | none => fail .eofWhileParsingObject
    else if b = 34 then readName names
    else failAhead .expectedSomeValue

/-- Reads a format. -/
def readFormat : Reader OutputFormat := do
  pure (if (← readChoice ["text", "json"]) = 0 then .text else .json)

/-- Reads a choice of parts. -/
def readParts : Reader Parts := do
  match ← readChoice ["both", "one", "two"] with
  | 0 => pure .both
  | 1 => pure .one
  | _ => pure .two

/-- Reads an input path or `null`. -/
def readInputPath : Reader (Option String) := do
  match ← blanks with
  | some b =>
    if b = 110 then do eat; ident [117, 108, 108]; pure none
    else some <$> readString "path string"
  | none => some <$> readString "path string"

-- ---------------------------------------------------------------------------
-- The array form
-- ---------------------------------------------------------------------------

/-- Whether the array has another element; `first` when none has been read yet. -/
def hasElement (first : Bool) : Reader Bool := do
  match ← blanks with
  | none => failAhead .eofWhileParsingList
  | some b =>
    if b = 93 then pure false
    else if first then pure true
    else if b = 44 then do
      eat
      match ← blanks with
      | some b => if b = 93 then failAhead .trailingComma else pure true
      | none => failAhead .eofWhileParsingValue
    else failAhead .expectedListCommaOrEnd

/-- Reads the element at `index` with `read`, or fails when the array has ended. -/
def element {α : Type} (index : Nat) (read : Reader α) : Reader α := do
  if ← hasElement (index = 0) then read
  else raise ("invalid length " ++ toString index ++ ", expected " ++ kindName ++ " with 4 elements")

/-- Reads the four values of the array form. -/
def readElements : Reader Settings := do
  let input ← element 0 readInputPath
  let format ← element 1 readFormat
  let logFilter ← element 2 (readString "a string")
  let parts ← element 3 readParts
  pure ⟨input, format, logFilter, parts⟩

/-- Passes the end of an array. -/
def arrayEnd : Reader Unit := do
  match ← blanks with
  | some b =>
    if b = 93 then eat
    else if b = 44 then do
      eat
      match ← blanks with
      | some c => if c = 93 then failAhead .trailingComma else failAhead .trailingCharacters
      | none => failAhead .trailingCharacters
    else failAhead .trailingCharacters
  | none => failAhead .eofWhileParsingList

-- ---------------------------------------------------------------------------
-- The object form
-- ---------------------------------------------------------------------------

/-- The members read so far. -/
structure Members where
  inputPath : Option (Option String) := none
  format : Option OutputFormat := none
  logFilter : Option String := none
  parts : Option Parts := none

/-- The name of the next member, or `none` at the closing brace. -/
def memberName (first : Bool) : Reader (Option String) := do
  let b? ← blanks
  let b? ← match b? with
    | some b =>
      if b = 125 then pure none
      else if b = 44 ∧ !first then do eat; some <$> blanks
      else if first then pure (some (some b))
      else failAhead .expectedObjectCommaOrEnd
    | none => failAhead .eofWhileParsingObject
  match b? with
  | none => pure none
  | some (some b) =>
    if b = 34 then do eat; some <$> string
    else if b = 125 then failAhead .trailingComma
    else failAhead .keyMustBeAString
  | some none => failAhead .eofWhileParsingValue

/-- A member given twice. -/
def duplicate {α : Type} (name : String) : Reader α :=
  raise ("duplicate field `" ++ name ++ "`")

/-- Reads the members of the object form, with at most `fuel` members. -/
def readMembers (first : Bool) (m : Members) : Nat → Reader Members
  | 0 => pure m
  | fuel + 1 => do
    match ← memberName first with
    | none => pure m
    | some name =>
      if name = "input_path" then
        if m.inputPath.isSome then duplicate name
        else do colon; readMembers false { m with inputPath := some (← readInputPath) } fuel
      else if name = "format" then
        if m.format.isSome then duplicate name
        else do colon; readMembers false { m with format := some (← readFormat) } fuel
      else if name = "log_filter" then
        if m.logFilter.isSome then duplicate name
        else do colon; readMembers false { m with logFilter := some (← readString "a string") } fuel
      else if name = "parts" then
        if m.parts.isSome then duplicate name
        else do colon; readMembers false { m with parts := some (← readParts) } fuel
      else do colon; skipValue; readMembers false m fuel

/-- A member left out. -/
def missing {α : Type} (name : String) : Reader α :=
  raise ("missing field `" ++ name ++ "`")

/-- Reads the object form: its members, then checks that each required member is there. -/
def readObject : Reader Settings := do
  let m ← readMembers true {} (← budget)
  let some format := m.format | missing "format"
  let some logFilter := m.logFilter | missing "log_filter"
  let some parts := m.parts | missing "parts"
  pure ⟨m.inputPath.getD none, format, logFilter, parts⟩

/-- Passes the end of an object. -/
def objectEnd : Reader Unit := do
  match ← blanks with
  | some b =>
    if b = 125 then eat
    else if b = 44 then failAhead .trailingComma
    else failAhead .trailingCharacters
  | none => failAhead .eofWhileParsingObject

/-- Reads the inside of an array or object with `inner`, then its end with `close`, even after
`inner` failed; the first failure wins and is placed where reading stopped. -/
def enclosed (inner : Reader Settings) (close : Reader Unit) : Reader Settings := do
  eat
  let r ← attempt inner
  let e ← attempt close
  match r, e with
  | .error err, _ => throw (← settle err)
  | .ok _, .error err => throw (← settle err)
  | .ok s, .ok () => pure s

/-- Reads settings in the object or the array form. -/
def readValue : Reader Settings := do
  match ← blanks with
  | none => failAhead .eofWhileParsingValue
  | some b =>
    if b = 91 then enclosed readElements arrayEnd
    else if b = 123 then enclosed readObject objectEnd
    else invalidType kindName

/-- Reads settings from a whole JSON text; only blanks may follow them. -/
def ofJson (text : String) : Except String Settings :=
  let reading : Reader Settings := do
    let s ← readValue
    match ← blanks with
    | some _ => failAhead .trailingCharacters
    | none => pure s
  match (reading.run.run ⟨text.toUTF8, 0⟩).1 with
  | .ok s => .ok s
  | .error e => .error e.message

end Settings

/-- Reads settings from JSON and writes them back, or gives the reading fault. -/
def Settings.roundTrip (text : String) : Except Fault String :=
  match Settings.ofJson text with
  | .ok s => .ok s.toJson
  | .error e => .error (.serialization e)

end BootCode
