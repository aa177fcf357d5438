/-!
# Numbers with one decimal place

A floating point number is a fraction whose denominator is a power of two. Its text with one
decimal place is that of the nearest tenth, and of two tenths equally near the one with an even
number of tenths.

## Main definitions

* `fractionOf` — the exact value of a finite number that is not negative
* `roundHalfEven` — a fraction rounded to a whole number
* `tenthsText` — the text with one decimal place
-/

namespace FindingCheck

/-- The exact value of a finite number that is not negative, as a numerator and a denominator.
The low 52 bits are those of the significand and the 11 bits above them the scale. -/
def fractionOf (x : Float) : Nat × Nat :=
  let bits := x.toBits.toNat
  let low := bits % (1 <<< 52)
  let scale := (bits >>> 52) % (1 <<< 11)
  let significand := if scale = 0 then low else low + 1 <<< 52
  let scale := max scale 1
  if 1075 ≤ scale then (significand <<< (scale - 1075), 1)
  else (significand, 1 <<< (1075 - scale))

/-- A fraction rounded to the nearest whole number; a half goes to the even neighbour. -/
def roundHalfEven (numerator denominator : Nat) : Nat :=
  let below := numerator / denominator
  let twice := 2 * (numerator % denominator)
  if twice < denominator then below
  else if denominator < twice then below + 1
  else below + below % 2

/-- The text of a number with one decimal place. -/
def tenthsText (x : Float) : String :=
  let (numerator, denominator) := fractionOf x
  let tenths := roundHalfEven (10 * numerator) denominator
  toString (tenths / 10) ++ "." ++ toString (tenths % 10)

end FindingCheck
