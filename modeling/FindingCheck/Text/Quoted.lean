import FindingCheck.Text.Printable

/-!
# Quoted texts

A text inside another text stands in double quotes. A quote mark and a backslash get a backslash
in front; four control characters have a letter; a grapheme extender or an unprintable character
is written as its code point in lower-case hexadecimal digits between braces.

## Main definitions

* `escapeChar` — how one character stands inside quotes
* `quoted` — a text with its quotes
* `bracketed` — texts one after the other in brackets
-/

namespace FindingCheck

/-- A code point between braces, as in `u\x7b301\x7d`. -/
def codePointEscape (c : Char) : List Char :=
  ['\\', 'u', '\x7b'] ++ Nat.toDigits 16 c.toNat ++ ['\x7d']

/-- How one character stands inside quotes. -/
def escapeChar (c : Char) : List Char :=
  if c = '\x00' then ['\\', '0']
  else if c = '\t' then ['\\', 't']
  else if c = '\r' then ['\\', 'r']
  else if c = '\n' then ['\\', 'n']
  else if c = '"' || c = '\\' then ['\\', c]
  else if isGraphemeExtender c || isUnprintable c then codePointEscape c
  else [c]

/-- A text between quotes, each character escaped where it has to be. -/
def quoted (text : String) : String :=
  String.ofList ('"' :: text.toList.flatMap escapeChar ++ ['"'])

/-- Texts between brackets, set apart by a comma and a space. -/
def bracketed (items : List String) : String :=
  "[" ++ String.intercalate ", " items ++ "]"

end FindingCheck
