/-!
# Lines of a text

A text is cut into lines at every line feed. A line ended by a line feed loses one carriage
return just before it; the piece after the last line feed is a line only when it is not empty,
and it keeps a carriage return at its end, since no line feed follows it.
-/

namespace BootCode.Text

/-- Cuts the rest of a text into lines, `part` holding the characters of the current line,
last character first. -/
def linesFrom (part : List Char) : List Char → List (List Char)
  | [] => if part.isEmpty then [] else [part.reverse]
  | c :: cs =>
    if c = '\n' then
      (match part with
        | '\r' :: r => r.reverse
        | _ => part.reverse) :: linesFrom [] cs
    else linesFrom (c :: part) cs

/-- The lines of a text, in order. -/
def lines (cs : List Char) : List (List Char) :=
  linesFrom [] cs

theorem lines_nil : lines [] = [] := rfl

example : lines "a\r\nb\r".toList = ["a".toList, "b\r".toList] := by decide
example : lines "\n\nx\n".toList = [[], [], ['x']] := by decide

end BootCode.Text
