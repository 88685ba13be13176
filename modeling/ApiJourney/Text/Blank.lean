-- SUMMARY: Blank characters and trimming.

/-!
# Blank characters

The characters that count as blank space around and between words: the
Unicode space separators, the line and paragraph separators, and the control
characters that separate lines and fields.
-/

namespace ApiJourney.Text

def isBlank (c : Char) : Bool :=
  let n := c.toNat
  (9 ≤ n && n ≤ 13) || (28 ≤ n && n ≤ 32) || n == 0x85 || n == 0xA0 || n == 0x1680
    || (0x2000 ≤ n && n ≤ 0x200A) || n == 0x2028 || n == 0x2029 || n == 0x202F
    || n == 0x205F || n == 0x3000

def dropEndWhile (p : α → Bool) (xs : List α) : List α :=
  (xs.reverse.dropWhile p).reverse

def trimStart (cs : List Char) : List Char :=
  cs.dropWhile isBlank

def trimEnd (cs : List Char) : List Char :=
  dropEndWhile isBlank cs

def trim (cs : List Char) : List Char :=
  trimEnd (trimStart cs)

/-- `s` without the blanks at its two ends. -/
def trimmed (s : String) : String :=
  String.ofList (trim s.toList)

/-- A text that was given; an empty one counts as none. -/
def given? (s : Option String) : Option String :=
  s.filter fun t => !t.isEmpty

end ApiJourney.Text
