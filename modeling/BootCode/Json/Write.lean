/-!
# Writing JSON

JSON strings and objects as this program writes them. In a string, the quote and the backslash
are escaped, the control characters backspace, tab, line feed, form feed and carriage return
get their short escapes, the other control characters are written as `\u00` and two lowercase
hexadecimal digits, and every other character stands for itself. Objects are written either
compactly, or one member per line indented by two spaces per level.
-/

namespace BootCode.Json

/-- A lowercase hexadecimal digit. -/
def hexDigit (n : Nat) : Char :=
  if n < 10 then Char.ofNat (n + '0'.toNat) else Char.ofNat (n - 10 + 'a'.toNat)

/-- How one character is written inside a JSON string. -/
def escapeChar (c : Char) : List Char :=
  if c = '"' then ['\\', '"']
  else if c = '\\' then ['\\', '\\']
  else if c = '\x08' then ['\\', 'b']
  else if c = '\t' then ['\\', 't']
  else if c = '\n' then ['\\', 'n']
  else if c = '\x0c' then ['\\', 'f']
  else if c = '\r' then ['\\', 'r']
  else if c.toNat < 0x20 then ['\\', 'u', '0', '0', hexDigit (c.toNat / 16), hexDigit (c.toNat % 16)]
  else [c]

/-- A text as a JSON string, quotes included. -/
def quote (s : String) : String :=
  String.ofList ('"' :: s.toList.flatMap escapeChar ++ ['"'])

/-- An object from members whose values are written already, on one line without spaces. -/
def compactObject (members : List (String × String)) : String :=
  "\x7b" ++ ",".intercalate (members.map fun (k, v) => quote k ++ ":" ++ v) ++ "\x7d"

/-- Two spaces per level of nesting. -/
def indentation (level : Nat) : String :=
  String.ofList (List.replicate (2 * level) ' ')

/-- An object at nesting `level` from members whose values are written already: one member
per line, indented one level deeper than the braces; an object without members is `\x7b\x7d`. -/
def prettyObject (level : Nat) (members : List (String × String)) : String :=
  match members with
  | [] => "\x7b\x7d"
  | _ =>
    "\x7b\n" ++
      ",\n".intercalate (members.map fun (k, v) => indentation (level + 1) ++ quote k ++ ": " ++ v) ++
      "\n" ++ indentation level ++ "\x7d"

end BootCode.Json
