import BootCode.Json.Number
import BootCode.Text.Quoted
/-!
# Reading JSON text

A reader walks the bytes of a JSON text from left to right and stops at the first fault. A
fault is reported with the line of the byte it was found at, counted from 1, and its column,
the number of bytes before it on that line; a fault found by looking one byte ahead is placed
after that byte. Blanks between tokens are space, tab, line feed and carriage return.

Reading keeps the position at which it stopped even when it fails, so that a caller may first
finish the structure it is in and then place a fault that arose inside it.
-/

namespace BootCode.Json

/-- What went wrong while reading. -/
inductive ReadFault where
  | eofWhileParsingList
  | eofWhileParsingObject
  | eofWhileParsingString
  | eofWhileParsingValue
  | expectedColon
  | expectedListCommaOrEnd
  | expectedObjectCommaOrEnd
  | expectedSomeIdent
  | expectedSomeValue
  | invalidEscape
  | invalidNumber
  | numberOutOfRange
  | controlCharacterWhileParsingString
  | keyMustBeAString
  | loneLeadingSurrogateInHexEscape
  | trailingComma
  | trailingCharacters
  | unexpectedEndOfHexEscape
  /-- The text is well formed but does not describe the value asked for. -/
  | custom (message : String)
  deriving DecidableEq, Repr

/-- The description of each fault. -/
def ReadFault.message : ReadFault → String
  | .eofWhileParsingList => "EOF while parsing a list"
  | .eofWhileParsingObject => "EOF while parsing an object"
  | .eofWhileParsingString => "EOF while parsing a string"
  | .eofWhileParsingValue => "EOF while parsing a value"
  | .expectedColon => "expected `:`"
  | .expectedListCommaOrEnd => "expected `,` or `]`"
  | .expectedObjectCommaOrEnd => "expected `,` or `\x7d`"
  | .expectedSomeIdent => "expected ident"
  | .expectedSomeValue => "expected value"
  | .invalidEscape => "invalid escape"
  | .invalidNumber => "invalid number"
  | .numberOutOfRange => "number out of range"
  | .controlCharacterWhileParsingString =>
    "control character (\\u0000-\\u001F) found while parsing a string"
  | .keyMustBeAString => "key must be a string"
  | .loneLeadingSurrogateInHexEscape => "lone leading surrogate in hex escape"
  | .trailingComma => "trailing comma"
  | .trailingCharacters => "trailing characters"
  | .unexpectedEndOfHexEscape => "unexpected end of hex escape"
  | .custom message => message

/-- A fault and, once known, its line and column. -/
structure ReadError where
  fault : ReadFault
  place : Option (Nat × Nat)
  deriving DecidableEq, Repr

/-- The description of a fault followed by its place. -/
def ReadError.message (e : ReadError) : String :=
  match e.place with
  | some (line, column) =>
    e.fault.message ++ " at line " ++ toString line ++ " column " ++ toString column
  | none => e.fault.message

/-- The text being read and the index of the next byte. -/
structure Cursor where
  bytes : ByteArray
  pos : Nat

/-- Line and column of the byte at index `i`: the line counts the line feeds before it, the
column the bytes between the last of them and `i`. -/
def placeOf (bytes : ByteArray) (i : Nat) : Nat × Nat :=
  (bytes.toList.take i).foldl
    (fun (place : Nat × Nat) (b : UInt8) =>
      if b = 10 then (place.1 + 1, 0) else (place.1, place.2 + 1)) (1, 0)

/-- Reading a text; a failure keeps the position reached. -/
abbrev Reader := ExceptT ReadError (StateM Cursor)

namespace Reader

/-- Runs a step and gives its result, success or failure, keeping the position it reached. -/
def attempt {α : Type} (x : Reader α) : Reader (Except ReadError α) :=
  ExceptT.lift x.run

/-- The next byte, if any, without moving. -/
def peek? : Reader (Option UInt8) := do
  let c ← get
  pure c.bytes[c.pos]?

/-- The next byte, or 0 at the end, without moving. -/
def peekOrNull : Reader UInt8 := do
  pure ((← peek?).getD 0)

/-- Moves past one byte. -/
def eat : Reader Unit :=
  modify fun c => { c with pos := c.pos + 1 }

/-- The next byte, if any, moving past it. -/
def next? : Reader (Option UInt8) := do
  let b ← peek?
  if b.isSome then eat
  pure b

/-- How many bytes are left, plus one: a bound on the steps of any loop over them. -/
def budget : Reader Nat := do
  let c ← get
  pure (c.bytes.size - c.pos + 1)

/-- Fails with a fault placed at the current position. -/
def fail {α : Type} (f : ReadFault) : Reader α := do
  let c ← get
  throw ⟨f, some (placeOf c.bytes c.pos)⟩

/-- Fails with a fault placed after the next byte. -/
def failAhead {α : Type} (f : ReadFault) : Reader α := do
  let c ← get
  throw ⟨f, some (placeOf c.bytes (min c.bytes.size (c.pos + 1)))⟩

/-- Places a fault that has no place yet at the current position. -/
def settle (e : ReadError) : Reader ReadError := do
  match e.place with
  | some _ => pure e
  | none =>
    let c ← get
    pure { e with place := some (placeOf c.bytes c.pos) }

/-- Fails with a fault without a place; an enclosing step places it. -/
def raise {α : Type} (message : String) : Reader α :=
  throw ⟨.custom message, none⟩

/-- Whether a byte is a blank between tokens. -/
def isBlank (b : UInt8) : Bool :=
  b = 32 || b = 10 || b = 9 || b = 13

/-- Skips blanks, with at most `fuel` steps, and gives the next byte. -/
def skipBlanks : Nat → Reader (Option UInt8)
  | 0 => peek?
  | fuel + 1 => do
    match ← peek? with
    | some b => if isBlank b then do eat; skipBlanks fuel else pure (some b)
    | none => pure none

/-- Skips blanks and gives the next byte. -/
def blanks : Reader (Option UInt8) := do
  skipBlanks (← budget)

/-- Whether a byte is an ASCII digit. -/
def isDigit (b : UInt8) : Bool :=
  48 ≤ b && b ≤ 57

/-- Reads the rest of a literal such as `ull` after `n`. -/
def ident : List UInt8 → Reader Unit
  | [] => pure ()
  | b :: bs => do
    match ← next? with
    | none => fail .eofWhileParsingValue
    | some c => if c = b then ident bs else fail .expectedSomeIdent

-- ---------------------------------------------------------------------------
-- Strings
-- ---------------------------------------------------------------------------

/-- The value of a hexadecimal digit. -/
def hexValue (b : UInt8) : Option Nat :=
  if 48 ≤ b ∧ b ≤ 57 then some (b.toNat - 48)
  else if 97 ≤ b ∧ b ≤ 102 then some (b.toNat - 87)
  else if 65 ≤ b ∧ b ≤ 70 then some (b.toNat - 55)
  else none

/-- Reads four hexadecimal digits after `\u`. Fewer than four bytes left is the end of the
text inside a string; the four bytes are passed over before a bad digit is reported. -/
def hex4 : Reader Nat := do
  let c ← get
  if c.pos + 4 ≤ c.bytes.size then
    let ds := (List.range 4).map fun i => c.bytes[c.pos + i]?.bind hexValue
    set { c with pos := c.pos + 4 }
    match ds with
    | [some a, some b, some d, some e] => pure (((a * 16 + b) * 16 + d) * 16 + e)
    | _ => fail .invalidEscape
  else
    set { c with pos := c.bytes.size }
    fail .eofWhileParsingString

/-- The UTF-8 bytes of a code point. -/
def utf8 (n : Nat) : ByteArray :=
  (Char.ofNat n).toString.toUTF8

/-- Reads the rest of a `\u` escape, a surrogate pair included, onto `acc`. -/
def unicodeEscape (acc : ByteArray) : Reader ByteArray := do
  let n ← hex4
  if 0xDC00 ≤ n ∧ n ≤ 0xDFFF then fail .loneLeadingSurrogateInHexEscape
  else if n < 0xD800 ∨ 0xDBFF < n then pure (acc ++ utf8 n)
  else
    match ← peek? with
    | none => fail .eofWhileParsingString
    | some b =>
      eat
      if b ≠ 92 then fail .unexpectedEndOfHexEscape
      else
        match ← peek? with
        | none => fail .eofWhileParsingString
        | some b =>
          eat
          if b ≠ 117 then fail .unexpectedEndOfHexEscape
          else
            let n2 ← hex4
            if n2 < 0xDC00 ∨ 0xDFFF < n2 then fail .loneLeadingSurrogateInHexEscape
            else pure (acc ++ utf8 ((n - 0xD800) * 0x400 + (n2 - 0xDC00) + 0x10000))

/-- Reads the escape after a backslash onto `acc`. -/
def escape (acc : ByteArray) : Reader ByteArray := do
  match ← next? with
  | none => fail .eofWhileParsingString
  | some c =>
    if c = 34 ∨ c = 92 ∨ c = 47 then pure (acc.push c)
    else if c = 98 then pure (acc.push 8)
    else if c = 102 then pure (acc.push 12)
    else if c = 110 then pure (acc.push 10)
    else if c = 114 then pure (acc.push 13)
    else if c = 116 then pure (acc.push 9)
    else if c = 117 then unicodeEscape acc
    else fail .invalidEscape

/-- Reads string bytes onto `acc` up to the closing quote, with at most `fuel` steps. -/
def stringBytes (acc : ByteArray) : Nat → Reader ByteArray
  | 0 => fail .eofWhileParsingString
  | fuel + 1 => do
    match ← peek? with
    | none => fail .eofWhileParsingString
    | some b =>
      eat
      if b = 34 then pure acc
      else if b = 92 then do stringBytes (← escape acc) fuel
      else if b < 32 then fail .controlCharacterWhileParsingString
      else stringBytes (acc.push b) fuel

/-- Reads a string whose opening quote has been passed. -/
def string : Reader String := do
  let bs ← stringBytes ByteArray.empty (← budget)
  pure ((String.fromUTF8? bs).getD "")

/-- Passes over the escape after a backslash. -/
def skipEscape : Reader Unit := do
  match ← next? with
  | none => fail .eofWhileParsingString
  | some c =>
    if c = 34 ∨ c = 92 ∨ c = 47 ∨ c = 98 ∨ c = 102 ∨ c = 110 ∨ c = 114 ∨ c = 116 then pure ()
    else if c = 117 then do let _ ← hex4; pure ()
    else fail .invalidEscape

/-- Passes over string bytes up to the closing quote, with at most `fuel` steps; a control
character is reported where it stands. -/
def skipStringBytes : Nat → Reader Unit
  | 0 => fail .eofWhileParsingString
  | fuel + 1 => do
    match ← peek? with
    | none => fail .eofWhileParsingString
    | some b =>
      if b = 34 then eat
      else if b = 92 then do eat; skipEscape; skipStringBytes fuel
      else if b < 32 then fail .controlCharacterWhileParsingString
      else do eat; skipStringBytes fuel

/-- Passes over a string whose opening quote has been passed. -/
def skipString : Reader Unit := do
  skipStringBytes (← budget)

-- ---------------------------------------------------------------------------
-- Numbers
-- ---------------------------------------------------------------------------

/-- A number as read: a natural number below `2 ^ 64`, a negative integer down to `-2 ^ 63`,
or a double for all else. -/
inductive Number where
  | unsigned (n : Nat)
  | signed (n : Int)
  | float (x : Float)

/-- The largest natural number that a number is read into. -/
def wordMax : Nat := 18446744073709551615

/-- Whether appending digit `d` to `acc` passes `limit`. -/
def overflows (acc d limit : Nat) : Bool :=
  acc ≥ limit / 10 && (acc > limit / 10 || d > limit % 10)

/-- Assembles a double, failing when it is out of range. -/
def assemble (positive : Bool) (significand : Nat) (exponent : Int) : Reader Float := do
  match fromParts positive significand exponent with
  | some f => pure f
  | none => fail .numberOutOfRange

/-- Passes the digits of an exponent too large to hold: zero, or a fault when the value would
be infinite. -/
def exponentOverflow (positive zeroSignificand positiveExp : Bool) (fuel : Nat) : Reader Float := do
  if !zeroSignificand && positiveExp then fail .numberOutOfRange
  else
    let rec go : Nat → Reader Unit
      | 0 => pure ()
      | fuel + 1 => do if isDigit (← peekOrNull) then do eat; go fuel else pure ()
    go fuel
    pure (if positive then 0.0 else -0.0)

/-- Reads an exponent, its letter not yet passed, and assembles the double. -/
def exponentPart (positive : Bool) (significand : Nat) (start : Int) : Reader Float := do
  eat
  let b ← peekOrNull
  let positiveExp ← if b = 43 then do eat; pure true
    else if b = 45 then do eat; pure false
    else pure true
  match ← next? with
  | none => fail .eofWhileParsingValue
  | some c =>
    if !isDigit c then fail .invalidNumber
    else
      let rec go : Nat → Nat → Reader (Option Nat)
        | 0, e => pure (some e)
        | fuel + 1, e => do
          let d ← peekOrNull
          if isDigit d then
            eat
            let d := d.toNat - 48
            if overflows e d 2147483647 then pure none else go fuel (e * 10 + d)
          else pure (some e)
      match ← go (← budget) (c.toNat - 48) with
      | none => exponentOverflow positive (significand = 0) positiveExp (← budget)
      | some e =>
        let e : Int := e
        -- the sum saturates at the bounds of the 32-bit signed range
        let final := if positiveExp then min (start + e) 2147483647 else max (start - e) (-2147483648)
        assemble positive significand final

/-- Reads the digits after a decimal point, the point not yet passed. -/
def fractionPart (positive : Bool) (significand : Nat) (before : Int) : Reader Float := do
  eat
  let rec go : Nat → Nat → Int → Reader (Nat × Int × Bool)
    | 0, s, e => pure (s, e, false)
    | fuel + 1, s, e => do
      let b ← peekOrNull
      if isDigit b then
        let d := b.toNat - 48
        if overflows s d wordMax then pure (s, e, true)
        else do eat; go fuel (s * 10 + d) (e - 1)
      else pure (s, e, false)
  let (s, after, full) ← go (← budget) significand 0
  if full then
    -- further digits are passed over
    let rec skip : Nat → Reader Unit
      | 0 => pure ()
      | fuel + 1 => do if isDigit (← peekOrNull) then do eat; skip fuel else pure ()
    skip (← budget)
    let b ← peekOrNull
    if b = 101 ∨ b = 69 then exponentPart positive s (before + after)
    else assemble positive s (before + after)
  else if after = 0 then
    match ← peek? with
    | some _ => failAhead .invalidNumber
    | none => failAhead .eofWhileParsingValue
  else
    let b ← peekOrNull
    if b = 101 ∨ b = 69 then exponentPart positive s (before + after)
    else assemble positive s (before + after)

/-- Reads the rest of an integer too long for 64 bits: the further digits only raise the
exponent. -/
def longInteger (positive : Bool) (significand : Nat) : Nat → Int → Reader Float
  | 0, e => assemble positive significand e
  | fuel + 1, e => do
    let b ← peekOrNull
    if isDigit b then do eat; longInteger positive significand fuel (e + 1)
    else if b = 46 then fractionPart positive significand e
    else if b = 101 ∨ b = 69 then exponentPart positive significand e
    else assemble positive significand e

/-- Finishes a number after its integer digits. -/
def afterInteger (positive : Bool) (significand : Nat) : Reader Number := do
  let b ← peekOrNull
  if b = 46 then .float <$> fractionPart positive significand 0
  else if b = 101 ∨ b = 69 then .float <$> exponentPart positive significand 0
  else if positive then pure (.unsigned significand)
  else if 0 < significand ∧ significand ≤ 9223372036854775808 then pure (.signed (-(significand : Int)))
  else pure (.float (-(nearestOfNat significand)))

/-- Reads a number after its sign. -/
def number (positive : Bool) : Reader Number := do
  match ← next? with
  | none => fail .eofWhileParsingValue
  | some c =>
    if c = 48 then
      if isDigit (← peekOrNull) then failAhead .invalidNumber else afterInteger positive 0
    else if isDigit c then
      let rec go : Nat → Nat → Reader Number
        | 0, s => afterInteger positive s
        | fuel + 1, s => do
          let b ← peekOrNull
          if isDigit b then
            let d := b.toNat - 48
            if overflows s d wordMax then .float <$> longInteger positive s (← budget) 0
            else do eat; go fuel (s * 10 + d)
          else afterInteger positive s
      go (← budget) (c.toNat - 48)
    else fail .invalidNumber

/-- Passes over the exponent of a number, its letter not yet passed. -/
def skipExponent : Reader Unit := do
  eat
  let b ← peekOrNull
  if b = 43 ∨ b = 45 then eat
  match ← next? with
  | some c =>
    if isDigit c then
      let rec go : Nat → Reader Unit
        | 0 => pure ()
        | fuel + 1 => do if isDigit (← peekOrNull) then do eat; go fuel else pure ()
      go (← budget)
    else fail .invalidNumber
  | none => fail .invalidNumber

/-- Passes over the digits after a decimal point, the point not yet passed. -/
def skipFraction : Reader Unit := do
  eat
  let rec go : Nat → Bool → Reader Bool
    | 0, any => pure any
    | fuel + 1, any => do if isDigit (← peekOrNull) then do eat; go fuel true else pure any
  if !(← go (← budget) false) then failAhead .invalidNumber
  else
    let b ← peekOrNull
    if b = 101 ∨ b = 69 then skipExponent

/-- Passes over a number after its sign. -/
def skipNumber : Reader Unit := do
  match ← next? with
  | none => fail .invalidNumber
  | some c =>
    if c = 48 then
      if isDigit (← peekOrNull) then failAhead .invalidNumber else pure ()
    else if isDigit c then
      let rec go : Nat → Reader Unit
        | 0 => pure ()
        | fuel + 1 => do if isDigit (← peekOrNull) then do eat; go fuel else pure ()
      go (← budget)
    else fail .invalidNumber
    let b ← peekOrNull
    if b = 46 then skipFraction
    else if b = 101 ∨ b = 69 then skipExponent

-- ---------------------------------------------------------------------------
-- Passing over any value
-- ---------------------------------------------------------------------------

/-- Where passing over a value stands: at a value, after one, just after an opening bracket,
or at the next member of the innermost open bracket. -/
inductive SkipStage where
  | value
  | after
  | opened
  | member

/-- Passes over values, the open brackets kept on `stack`, with at most `fuel` steps. -/
def skipFrom : Nat → SkipStage → List UInt8 → Reader Unit
  | 0, _, _ => pure ()
  | fuel + 1, .value, stack => do
    match ← blanks with
    | none => failAhead .eofWhileParsingValue
    | some b =>
      if b = 110 then do eat; ident [117, 108, 108]; skipFrom fuel .after stack
      else if b = 116 then do eat; ident [114, 117, 101]; skipFrom fuel .after stack
      else if b = 102 then do eat; ident [97, 108, 115, 101]; skipFrom fuel .after stack
      else if b = 45 then do eat; skipNumber; skipFrom fuel .after stack
      else if isDigit b then do skipNumber; skipFrom fuel .after stack
      else if b = 34 then do eat; skipString; skipFrom fuel .after stack
      else if b = 91 ∨ b = 123 then do eat; skipFrom fuel .opened (b :: stack)
      else failAhead .expectedSomeValue
  | _, .after, [] => pure ()
  | fuel + 1, .after, frame :: rest => do
    match ← blanks with
    | some b =>
      if b = 44 then do eat; skipFrom fuel .member (frame :: rest)
      else if (b = 93 ∧ frame = 91) ∨ (b = 125 ∧ frame = 123) then do eat; skipFrom fuel .after rest
      else failAhead (if frame = 91 then .expectedListCommaOrEnd else .expectedObjectCommaOrEnd)
    | none => failAhead (if frame = 91 then .eofWhileParsingList else .eofWhileParsingObject)
  | _, .opened, [] => pure ()
  | fuel + 1, .opened, frame :: rest => do
    match ← blanks with
    | some b =>
      if (b = 93 ∧ frame = 91) ∨ (b = 125 ∧ frame = 123) then do eat; skipFrom fuel .after rest
      else skipFrom fuel .member (frame :: rest)
    | none => failAhead (if frame = 91 then .eofWhileParsingList else .eofWhileParsingObject)
  | _, .member, [] => pure ()
  | fuel + 1, .member, frame :: rest => do
    if frame = 123 then
      match ← blanks with
      | some b => if b = 34 then eat else failAhead .keyMustBeAString
      | none => failAhead .eofWhileParsingObject
      skipString
      match ← blanks with
      | some b => if b = 58 then eat else failAhead .expectedColon
      | none => failAhead .eofWhileParsingObject
    skipFrom fuel .value (frame :: rest)

/-- Passes over one value of any kind, arrays and objects included. -/
def skipValue : Reader Unit := do
  skipFrom (4 * (← budget)) .value []

-- ---------------------------------------------------------------------------
-- Values of the wrong kind
-- ---------------------------------------------------------------------------

/-- A value met where another kind was expected. -/
inductive Unexpected where
  | bool (b : Bool)
  | unsigned (n : Nat)
  | signed (n : Int)
  | float (x : Float)
  | str (s : String)
  | null
  | seq
  | map

/-- How an unexpected value is described. -/
def Unexpected.describe : Unexpected → String
  | .bool b => "boolean `" ++ (if b then "true" else "false") ++ "`"
  | .unsigned n => "integer `" ++ toString n ++ "`"
  | .signed n => "integer `" ++ toString n ++ "`"
  | .float x => "floating point `" ++ floatText x ++ "`"
  | .str s => "string " ++ Text.quoteString s
  | .null => "null"
  | .seq => "sequence"
  | .map => "map"

/-- Reads the value at hand far enough to describe it: scalars whole, arrays and objects by
their opening bracket only. -/
def unexpected : Reader Unexpected := do
  let b ← peekOrNull
  if b = 110 then do eat; ident [117, 108, 108]; pure .null
  else if b = 116 then do eat; ident [114, 117, 101]; pure (.bool true)
  else if b = 102 then do eat; ident [97, 108, 115, 101]; pure (.bool false)
  else if b = 45 ∨ isDigit b then do
    if b = 45 then eat
    match ← number (b ≠ 45) with
    | .unsigned n => pure (.unsigned n)
    | .signed n => pure (.signed n)
    | .float x => pure (.float x)
  else if b = 34 then do eat; pure (.str (← string))
  else if b = 91 then pure .seq
  else if b = 123 then pure .map
  else failAhead .expectedSomeValue

/-- Fails because the value at hand is not of the kind `expected`, placing the fault after
the value. -/
def invalidType {α : Type} (expected : String) : Reader α := do
  let u ← unexpected
  fail (.custom ("invalid type: " ++ u.describe ++ ", expected " ++ expected))

end Reader

end BootCode.Json
