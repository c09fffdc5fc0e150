/-!
# RobotProgram.Text.Blank

Blank characters. Two classes are in use:

* `isBlank`: the Unicode White_Space property, 25 code points. Trimming a field, a token or a
  whole literal removes these from both ends (`trimBlank`).
* `isAsciiBlank`: space, tab, line feed, form feed and carriage return, the blanks that may
  separate the parts of a bracket literal.
-/

namespace RobotProgram

namespace Text

/-- The Unicode White_Space property: tab to carriage return, space, next line, no-break space,
ogham space mark, the spaces from en quad to hair space, the line and paragraph separators,
the narrow no-break space, the medium mathematical space and the ideographic space. -/
def isBlank (c : Char) : Bool :=
  let n := c.toNat
  (0x09 ≤ n && n ≤ 0x0D) || n == 0x20 || n == 0x85 || n == 0xA0 || n == 0x1680 ||
    (0x2000 ≤ n && n ≤ 0x200A) || n == 0x2028 || n == 0x2029 || n == 0x202F ||
    n == 0x205F || n == 0x3000

/-- Space, tab, line feed, form feed and carriage return. -/
def isAsciiBlank (c : Char) : Bool :=
  c == ' ' || c == '\t' || c == '\n' || c == '\x0C' || c == '\r'

/-- Every ASCII blank is a blank. -/
theorem isBlank_of_isAsciiBlank {c : Char} (h : isAsciiBlank c = true) : isBlank c = true := by
  simp only [isAsciiBlank, Bool.or_eq_true, beq_iff_eq] at h
  rcases h with (((h | h) | h) | h) | h <;> subst h <;> decide

/-- The characters with blanks removed from both ends. -/
def trimBlankList (cs : List Char) : List Char :=
  ((cs.dropWhile isBlank).reverse.dropWhile isBlank).reverse

/-- The text with blanks removed from both ends. -/
def trimBlank (s : String) : String :=
  String.ofList (trimBlankList s.toList)

end Text

end RobotProgram
