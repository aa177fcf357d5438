/-!
# Decimal digits

## Main definitions

* `isDigits` — one ASCII digit or more
* `decimalValue` — the number that digits write
-/

namespace FindingCheck

/-- Whether a text is one digit or more. -/
def isDigits (text : List Char) : Bool :=
  !text.isEmpty && text.all Char.isDigit

/-- The number that digits write, leading zeros included. -/
def decimalValue (digits : List Char) : Nat :=
  digits.foldl (fun value digit => 10 * value + (digit.toNat - '0'.toNat)) 0

end FindingCheck
