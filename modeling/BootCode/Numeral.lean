/-!
# Decimal numerals

A signed decimal numeral is an optional sign, `+` or `-`, then ASCII digits. Reading goes left
to right and stops at the first fault: a character that is not a digit, or a digit after which
the value read so far no longer fits the bounds. A sign with nothing after it is a fault of the
first kind, and leading zeros are allowed.
-/

namespace BootCode

/-- Why a text is not a numeral of a given range. -/
inductive NumeralFault where
  /-- The text is empty. -/
  | empty
  /-- A character that is not a digit, or a sign alone. -/
  | invalidDigit
  /-- The value is above the largest allowed. -/
  | tooLarge
  /-- The value is below the smallest allowed. -/
  | tooSmall
  deriving DecidableEq, Repr

namespace NumeralFault

/-- The message of each fault. -/
def message : NumeralFault → String
  | .empty => "cannot parse integer from empty string"
  | .invalidDigit => "invalid digit found in string"
  | .tooLarge => "number too large to fit in target type"
  | .tooSmall => "number too small to fit in target type"

end NumeralFault

namespace Numeral

/-- Reads digits onto `acc`; `none` when a non-digit comes first, `some none` when a digit
takes the value past `limit` first, and `some (some n)` for the value `n` of all the digits. -/
def digits (limit : Nat) (acc : Nat) : List Char → Option (Option Nat)
  | [] => some (some acc)
  | c :: cs =>
    if '0' ≤ c ∧ c ≤ '9' then
      let next := acc * 10 + (c.toNat - '0'.toNat)
      if limit < next then some none else digits limit next cs
    else none

/-- The magnitude of a numeral without its sign, at most `limit`; `overflow` is the fault when
it is larger. -/
def magnitude (limit : Nat) (overflow : NumeralFault) (cs : List Char) : Except NumeralFault Nat :=
  match digits limit 0 cs with
  | none => .error .invalidDigit
  | some none => .error overflow
  | some (some n) => .ok n

/-- Reads a signed numeral whose value lies between `-below` and `above`. -/
def readSigned (below above : Nat) : List Char → Except NumeralFault Int
  | [] => .error .empty
  | ['+'] => .error .invalidDigit
  | ['-'] => .error .invalidDigit
  | '+' :: cs => (magnitude above .tooLarge cs).map Int.ofNat
  | '-' :: cs => (magnitude below .tooSmall cs).map fun n => -(n : Int)
  | cs => (magnitude above .tooLarge cs).map Int.ofNat

/-- Reads a numeral of the 32-bit signed range. -/
def readInt32 (cs : List Char) : Except NumeralFault Int32 :=
  (readSigned 2147483648 2147483647 cs).map Int32.ofInt

example : readSigned 128 127 "+007".toList = .ok 7 := rfl
example : readSigned 128 127 "-128".toList = .ok (-128) := rfl
example : readSigned 128 127 "128".toList = .error .tooLarge := rfl
example : readSigned 128 127 "-".toList = .error .invalidDigit := rfl
example : readSigned 128 127 "999x".toList = .error .tooLarge := rfl
example : readSigned 128 127 "12x999".toList = .error .invalidDigit := rfl

end Numeral

end BootCode
