/-!
# Blanks, trimming and words

Blank characters are those of the Unicode `White_Space` property: the five ASCII controls from
tab to carriage return, the space, and nineteen characters above ASCII. Program text is cut
into words at runs of blanks, and a line counts as empty when nothing but blanks is left after
trimming it.
-/

namespace BootCode.Text

-- ---------------------------------------------------------------------------
-- The blank characters
-- ---------------------------------------------------------------------------

/-- A character is blank when it has the Unicode `White_Space` property. Zero-width space
(U+200B), the byte-order mark (U+FEFF) and the Mongolian vowel separator (U+180E) are not. -/
def isBlank (c : Char) : Bool :=
  let n := c.toNat
  (0x09 ≤ n && n ≤ 0x0D) || n == 0x20 || n == 0x85 || n == 0xA0 || n == 0x1680 ||
    (0x2000 ≤ n && n ≤ 0x200A) || n == 0x2028 || n == 0x2029 || n == 0x202F ||
    n == 0x205F || n == 0x3000

/-- Every character that core classes as whitespace is blank. -/
theorem isBlank_of_isWhitespace {c : Char} (h : c.isWhitespace = true) : isBlank c = true := by
  simp only [Char.isWhitespace, Bool.or_eq_true, decide_eq_true_eq] at h
  rcases h with ((h | h) | h) | h <;> simp [isBlank, h, Char.toNat]

-- ---------------------------------------------------------------------------
-- Trimming
-- ---------------------------------------------------------------------------

/-- Drops the blanks at both ends. -/
def trim (cs : List Char) : List Char :=
  ((cs.dropWhile isBlank).reverse.dropWhile isBlank).reverse

-- ---------------------------------------------------------------------------
-- Words
-- ---------------------------------------------------------------------------

/-- Cuts the rest of a text into words, `part` holding the characters of the word begun so
far, last character first. -/
def wordsFrom (part : List Char) : List Char → List (List Char)
  | [] => if part.isEmpty then [] else [part.reverse]
  | c :: cs =>
    if isBlank c then
      if part.isEmpty then wordsFrom [] cs else part.reverse :: wordsFrom [] cs
    else wordsFrom (c :: part) cs

/-- The maximal runs of non-blank characters of a text, in order. -/
def words (cs : List Char) : List (List Char) :=
  wordsFrom [] cs

theorem wordsFrom_nil (part : List Char) :
    wordsFrom part [] = if part.isEmpty then [] else [part.reverse] := rfl

theorem wordsFrom_blank {c : Char} (h : isBlank c = true) (part cs : List Char) :
    wordsFrom part (c :: cs) = if part.isEmpty then wordsFrom [] cs
      else part.reverse :: wordsFrom [] cs := by
  simp [wordsFrom, h]

theorem wordsFrom_solid {c : Char} (h : isBlank c = false) (part cs : List Char) :
    wordsFrom part (c :: cs) = wordsFrom (c :: part) cs := by
  simp [wordsFrom, h]

end BootCode.Text
