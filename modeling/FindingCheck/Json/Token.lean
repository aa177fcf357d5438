import FindingCheck.Json.Value
import FindingCheck.Text.Decimal

/-!
# Tokens of a JSON text

A JSON text is a sequence of tokens with white space between them: brackets, braces, commas and
colons, strings, and words, which are the numbers and the names of the three constants.

## Main definitions

* `Token` — the tokens
* `word?` — the value of a word
* `Scanner`, `Scanner.push` — the tokens of what has been read, and the token being read
* `tokens?` — the tokens of a text

## Design notes

The scanner takes one character after the other. Words and strings may stand side by side without
white space; no arrangement of values allows that, so it is the arrangement that refuses it.
-/

namespace FindingCheck

/-- A token of a JSON text. -/
inductive Token where
  /-- An opening bracket. -/
  | openArray
  /-- A closing bracket. -/
  | closeArray
  /-- An opening brace. -/
  | openObject
  /-- A closing brace. -/
  | closeObject
  /-- A comma. -/
  | comma
  /-- A colon. -/
  | colon
  /-- A string, a number or a constant. -/
  | scalar (value : JsonValue)

/-- Whether a text is the exponent of a number, or nothing. -/
def isExponent : List Char → Bool
  | [] => true
  | e :: sign :: digits =>
    (e = 'e' || e = 'E') &&
      if sign = '+' || sign = '-' then isDigits digits else isDigits (sign :: digits)
  | _ => false

/-- Whether a text is what may follow the whole part of a number. -/
def isFraction : List Char → Bool
  | '.' :: rest =>
    isDigits (rest.takeWhile Char.isDigit) && isExponent (rest.dropWhile Char.isDigit)
  | rest => isExponent rest

/-- The whole part of a number is zero or starts with another digit. -/
def isWholePart (digits : List Char) : Bool :=
  isDigits digits && (digits.head? ≠ some '0' || digits.length = 1)

/-- The number that a text is, if it is a number without a sign. -/
def unsigned? (text : List Char) : Option JsonValue :=
  let whole := text.takeWhile Char.isDigit
  let rest := text.dropWhile Char.isDigit
  if isWholePart whole && isFraction rest then
    some (.number (if rest.isEmpty then some (decimalValue whole) else none))
  else
    none

/-- The value of a word. A number with a sign is not written as a natural number. -/
def word? (word : List Char) : Option JsonValue :=
  if word = ['n', 'u', 'l', 'l'] then some .null
  else if word = ['t', 'r', 'u', 'e'] then some (.bool true)
  else if word = ['f', 'a', 'l', 's', 'e'] then some (.bool false)
  else
    match word with
    | '-' :: rest => (unsigned? rest).map fun _ => .number none
    | rest => unsigned? rest

/-- Whether a character belongs to words. -/
def isWordPart (c : Char) : Bool :=
  c.isAlphanum || c = '+' || c = '-' || c = '.'

/-- The value of a hexadecimal digit. -/
def hexDigit? (c : Char) : Option Nat :=
  if c.isDigit then some (c.toNat - '0'.toNat)
  else if 'a' ≤ c && c ≤ 'f' then some (c.toNat - 'a'.toNat + 10)
  else if 'A' ≤ c && c ≤ 'F' then some (c.toNat - 'A'.toNat + 10)
  else none

/-- The character that a letter behind a backslash means. -/
def shortEscape? (c : Char) : Option Char :=
  if c = '"' || c = '\\' || c = '/' then some c
  else if c = 'b' then some '\x08'
  else if c = 'f' then some '\x0c'
  else if c = 'n' then some '\n'
  else if c = 'r' then some '\r'
  else if c = 't' then some '\t'
  else none

/-- What the scanner is in the middle of. -/
inductive Scan where
  /-- Nothing: the last token is complete. -/
  | between
  /-- A word, its last character first. -/
  | word (letters : List Char)
  /-- A string, its last part first. -/
  | text (parts : List TextPart)
  /-- A string with a backslash at its end. -/
  | escape (parts : List TextPart)
  /-- A string in the middle of a code unit, of which `count` digits have been read. -/
  | unit (parts : List TextPart) (count value : Nat)

/-- The tokens of what has been read. -/
structure Scanner where
  /-- The complete tokens, the last first. -/
  done : List Token := []
  /-- What is being read. -/
  scan : Scan := .between

namespace Scanner

/-- Adds a token, with nothing being read after it. -/
def emit (done : List Token) (token : Token) : Scanner :=
  { done := token :: done }

/-- Takes a character between two tokens. -/
def start (done : List Token) (c : Char) : Option Scanner :=
  if c = ' ' || c = '\t' || c = '\n' || c = '\r' then some { done }
  else if c = '[' then some (emit done .openArray)
  else if c = ']' then some (emit done .closeArray)
  else if c = '\x7b' then some (emit done .openObject)
  else if c = '\x7d' then some (emit done .closeObject)
  else if c = ',' then some (emit done .comma)
  else if c = ':' then some (emit done .colon)
  else if c = '"' then some { done, scan := .text [] }
  else if isWordPart c then some { done, scan := .word [c] }
  else none

/-- Takes a character inside a string, where control characters are refused. -/
def inText (done : List Token) (parts : List TextPart) (c : Char) : Option Scanner :=
  if c = '"' then
    some (emit done (.scalar (.string ((joinParts? parts.reverse).map String.ofList))))
  else if c = '\\' then some { done, scan := .escape parts }
  else if c.toNat < 0x20 then none
  else some { done, scan := .text (.char c :: parts) }

/-- Takes the character behind a backslash. -/
def inEscape (done : List Token) (parts : List TextPart) (c : Char) : Option Scanner :=
  if c = 'u' then some { done, scan := .unit parts 0 0 }
  else (shortEscape? c).map fun c => { done, scan := .text (.char c :: parts) }

/-- Takes a digit of a code unit; four digits make one. -/
def inUnit (done : List Token) (parts : List TextPart) (count value : Nat) (c : Char) :
    Option Scanner :=
  (hexDigit? c).map fun digit =>
    if count = 3 then { done, scan := .text (.unit (16 * value + digit) :: parts) }
    else { done, scan := .unit parts (count + 1) (16 * value + digit) }

/-- Takes one character. -/
def push (scanner : Scanner) (c : Char) : Option Scanner :=
  match scanner.scan with
  | .between => start scanner.done c
  | .word letters =>
    if isWordPart c then some { scanner with scan := .word (c :: letters) }
    else (word? letters.reverse).bind fun value => start (.scalar value :: scanner.done) c
  | .text parts => inText scanner.done parts c
  | .escape parts => inEscape scanner.done parts c
  | .unit parts count value => inUnit scanner.done parts count value c

/-- The tokens when the text is at its end, unless a string is open. -/
def finish? (scanner : Scanner) : Option (List Token) :=
  match scanner.scan with
  | .between => some scanner.done.reverse
  | .word letters =>
    (word? letters.reverse).map fun value => (.scalar value :: scanner.done).reverse
  | _ => none

end Scanner

/-- The tokens of a text, if it is made of tokens. -/
def tokens? (text : String) : Option (List Token) :=
  (text.toList.foldlM Scanner.push {}).bind Scanner.finish?

end FindingCheck
