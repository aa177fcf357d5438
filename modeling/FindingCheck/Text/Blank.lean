import FindingCheck.Text.Ranges

/-!
# Blank characters and trimming

A blank is a character with the property White_Space of the Unicode standard: 25 characters, among
them the line feed, the carriage return and the no-break space.

## Main definitions

* `isBlank` — the class
* `trimStart`, `trimEnd`, `trim` — a text without the blanks at its start, at its end, at both
-/

namespace FindingCheck

/-- The ranges of the blank characters. -/
def blankRanges : Ranges := [
  (0x9, 0xd), (0x20, 0x20), (0x85, 0x85), (0xa0, 0xa0), (0x1680, 0x1680), (0x2000, 0x200a),
  (0x2028, 0x2029), (0x202f, 0x202f), (0x205f, 0x205f), (0x3000, 0x3000)]

/-- Whether a character is blank. -/
def isBlank (c : Char) : Bool :=
  blankRanges.contains c

/-- The text from its first character that is not blank. -/
def trimStart (cs : List Char) : List Char :=
  cs.dropWhile isBlank

/-- The text up to its last character that is not blank. -/
def trimEnd (cs : List Char) : List Char :=
  (cs.reverse.dropWhile isBlank).reverse

/-- The text without the blanks at both ends. -/
def trim (cs : List Char) : List Char :=
  trimEnd (trimStart cs)

end FindingCheck
