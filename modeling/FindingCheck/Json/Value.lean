/-!
# JSON values

The values of the JSON format, as far as a reader of recorded findings has to tell them apart.

## Main definitions

* `JsonValue` — the values
* `TextPart`, `joinParts?` — what stands between the quotes of a string, and the text that it means

## Design notes

The format lets a string hold half of a surrogate pair, which is no text. Such a string is a value
all the same, because it may stand where nobody looks; it has no text. In the same way a number
counts as a natural number only if it is written as one.
-/

namespace FindingCheck

/-- A JSON value. -/
inductive JsonValue where
  /-- The value `null`. -/
  | null
  /-- One of the values `true` and `false`. -/
  | bool (value : Bool)
  /-- A number; its value if it is written as a natural number. -/
  | number (natural? : Option Nat)
  /-- A string; its text if it means one. -/
  | string (text? : Option String)
  /-- A list of values. -/
  | array (items : List JsonValue)
  /-- Named values in the order of the text, with repeated names. -/
  | object (members : List (Option String × JsonValue))

namespace JsonValue

/-- The text of a string. -/
def text? : JsonValue → Option String
  | string text? => text?
  | _ => none

/-- The value of a number that is written as a natural number. -/
def natural? : JsonValue → Option Nat
  | number natural? => natural?
  | _ => none

/-- The items of an array. -/
def items? : JsonValue → Option (List JsonValue)
  | array items => some items
  | _ => none

end JsonValue

/-- What stands between the quotes of a string. -/
inductive TextPart where
  /-- A character. -/
  | char (c : Char)
  /-- A code unit of 16 bits, given by its digits. -/
  | unit (value : Nat)
deriving DecidableEq, Repr

/-- Whether a code unit is the first half of a surrogate pair. -/
def isHighSurrogate (unit : Nat) : Bool :=
  0xd800 ≤ unit && unit < 0xdc00

/-- Whether a code unit is the second half of a surrogate pair. -/
def isLowSurrogate (unit : Nat) : Bool :=
  0xdc00 ≤ unit && unit < 0xe000

/-- The character of a surrogate pair. -/
def surrogatePair (high low : Nat) : Char :=
  Char.ofNat (0x10000 + (high - 0xd800) * 0x400 + (low - 0xdc00))

/-- The text that the parts of a string mean. Halves of surrogate pairs have to meet. -/
def joinParts? : List TextPart → Option (List Char)
  | [] => some []
  | .char c :: more => (joinParts? more).map (c :: ·)
  | .unit high :: .unit low :: more =>
    if isHighSurrogate high then
      if isLowSurrogate low then (joinParts? more).map (surrogatePair high low :: ·) else none
    else if isLowSurrogate high then none
    else (joinParts? (.unit low :: more)).map (Char.ofNat high :: ·)
  | .unit value :: more =>
    if isHighSurrogate value || isLowSurrogate value then none
    else (joinParts? more).map (Char.ofNat value :: ·)

end FindingCheck
