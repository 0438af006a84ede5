import BootCode.Text.Combining
/-!
# Quoted text

A text is shown between double quotes. Inside, a quote and a backslash are preceded by a
backslash; tab, carriage return, line feed and the null character are written as `\t`, `\r`,
`\n` and `\0`; a character that is not printable, or that combines with the character before
it, is written as `\u` followed by its code point in lowercase hexadecimal, without leading
zeros, in braces. Every other character stands for itself; the single quote is not escaped.
-/

namespace BootCode.Text

/-- The code point of a character as `\u`, then lowercase hexadecimal digits in braces. -/
def codePointEscape (c : Char) : List Char :=
  "\\u\x7b".toList ++ Nat.toDigits 16 c.toNat ++ ['\x7d']

/-- How one character is written between the quotes. -/
def escapeChar (c : Char) : List Char :=
  if c = '\x00' then ['\\', '0']
  else if c = '\t' then ['\\', 't']
  else if c = '\r' then ['\\', 'r']
  else if c = '\n' then ['\\', 'n']
  else if c = '\\' then ['\\', '\\']
  else if c = '"' then ['\\', '"']
  else if isCombining c || !isPrintable c then codePointEscape c
  else [c]

/-- A text between double quotes, each character escaped by `escapeChar`. -/
def quote (cs : List Char) : List Char :=
  '"' :: cs.flatMap escapeChar ++ ['"']

/-- `quote` on strings. -/
def quoteString (s : String) : String :=
  String.ofList (quote s.toList)

theorem quote_nil : quote [] = ['"', '"'] := rfl

theorem escapeChar_quote : escapeChar '"' = ['\\', '"'] := by decide

end BootCode.Text
