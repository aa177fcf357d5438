import FindingCheck.Proofs.Report.Place
import Mathlib.Data.Nat.Digits.Defs

/-!
# The shortest file

The body of a line is read as a file, a line number and a text. What counts as a way to do so is
said here of texts and of numbers in base ten, without the functions that read. Reading finds the
one way with the shortest file.

## Main definitions

* `writtenNumber` — the number that a text of digits writes in base ten
* `IsSplit` — a way to take a body apart

## Main statements

* `splitLocation?_exact` — reading finds the way with the shortest file, and nothing only if there
  is no way
-/

namespace FindingCheck

/-- The number that digits write in base ten. -/
def writtenNumber (digits : String) : Nat :=
  Nat.ofDigits 10 (digits.toList.reverse.map fun digit => digit.toNat - '0'.toNat)

/-- The body is a file, a colon, digits, a space and a text, and the digits write a number of 32
bits. There is at least one character in the file and at least one digit. -/
structure IsSplit (body file digits text : String) : Prop where
  body_eq : body = file ++ ":" ++ digits ++ " " ++ text
  file_ne : file ≠ ""
  digits_ne : digits ≠ ""
  isDecimal : ∀ c ∈ digits.toList, '0' ≤ c ∧ c ≤ '9'
  fits : writtenNumber digits < 2 ^ 32

theorem decimalValue_eq_writtenNumber (digits : String) :
    decimalValue digits.toList = writtenNumber digits := by
  have hfoldr : ∀ reversed : List Char,
      reversed.foldr (fun digit value => 10 * value + (digit.toNat - '0'.toNat)) 0 =
        Nat.ofDigits 10 (reversed.map fun digit => digit.toNat - '0'.toNat) := by
    intro reversed
    induction reversed with
    | nil => rfl
    | cons digit reversed ih =>
      rw [List.foldr_cons, ih, List.map_cons, Nat.ofDigits_cons, Nat.add_comm]
  rw [writtenNumber, ← hfoldr, List.foldr_reverse]
  rfl

theorem isDigits_toList_iff {digits : String} :
    isDigits digits.toList = true ↔
      digits ≠ "" ∧ ∀ c ∈ digits.toList, '0' ≤ c ∧ c ≤ '9' := by
  rw [isDigits_iff, Ne, String.toList_eq_nil_iff]
  simp [Char.isDigit, Char.le_def]

theorem exists_toList_eq (chars : List Char) : ∃ text : String, text.toList = chars :=
  ⟨String.ofList chars, String.toList_ofList⟩

/-- The ways to take a body apart are the same, character by character or as texts. -/
theorem isPlaced_toList_iff {body file text : String} {line : UInt32} :
    IsPlaced body.toList file.toList line text.toList ↔
      ∃ digits, IsSplit body file digits text ∧ writtenNumber digits = line.toNat := by
  have hbody (digits : String) :
      body.toList = file.toList ++ ':' :: (digits.toList ++ ' ' :: text.toList) ↔
        body = file ++ ":" ++ digits ++ " " ++ text := by
    rw [← String.toList_inj]
    simp
  constructor
  · rintro ⟨hfile, chars, hdigits, hvalue, hchars⟩
    obtain ⟨digits, rfl⟩ := exists_toList_eq chars
    obtain ⟨hne, hdecimal⟩ := isDigits_toList_iff.mp hdigits
    rw [decimalValue_eq_writtenNumber] at hvalue
    refine ⟨digits, ⟨(hbody digits).mp hchars, ?_, hne, hdecimal, ?_⟩, hvalue⟩
    · rwa [Ne, String.toList_eq_nil_iff] at hfile
    · rw [hvalue]
      exact line.toNat_lt
  · rintro ⟨digits, h, hvalue⟩
    refine ⟨?_, digits.toList, isDigits_toList_iff.mpr ⟨h.digits_ne, h.isDecimal⟩, ?_,
      (hbody digits).mpr h.body_eq⟩
    · rw [Ne, String.toList_eq_nil_iff]
      exact h.file_ne
    · rw [decimalValue_eq_writtenNumber, hvalue]

/-- A way to take a body apart has a line, since its number fits. -/
theorem IsSplit.isPlaced {body file digits text : String} (h : IsSplit body file digits text) :
    IsPlaced body.toList file.toList (.ofNat (writtenNumber digits)) text.toList :=
  isPlaced_toList_iff.mpr ⟨digits, h, (UInt32.toNat_ofNat_of_lt' h.fits).symm⟩

/-- Reading a place is exact. It finds a file, a line and a text if the body can be taken apart
in this way with digits that write the line, and in no way with a shorter file; it finds nothing if
the body cannot be taken apart in any way. -/
theorem splitLocation?_exact (body : String) :
    (∀ (file : String) (line : UInt32) (text : String),
      splitLocation? body.toList = some (file.toList, line, text.toList) ↔
        (∃ digits, IsSplit body file digits text ∧ writtenNumber digits = line.toNat) ∧
          ∀ other digits text, IsSplit body other digits text → file.length ≤ other.length) ∧
    (splitLocation? body.toList = none ↔ ∀ file digits text, ¬IsSplit body file digits text) := by
  constructor
  · intro file line text
    rw [splitLocation?_eq_some_iff, isPlaced_toList_iff]
    refine and_congr_right fun _ => ⟨fun h other digits text hsplit => ?_, fun h => ?_⟩
    · exact h _ _ _ hsplit.isPlaced
    · intro other number rest hplaced
      obtain ⟨other, rfl⟩ := exists_toList_eq other
      obtain ⟨rest, rfl⟩ := exists_toList_eq rest
      obtain ⟨digits, hsplit, -⟩ := isPlaced_toList_iff.mp hplaced
      exact h other digits rest hsplit
  · rw [splitLocation?_eq_none_iff]
    constructor
    · intro h file digits text hsplit
      exact h _ _ _ hsplit.isPlaced
    · intro h file line text hplaced
      obtain ⟨file, rfl⟩ := exists_toList_eq file
      obtain ⟨text, rfl⟩ := exists_toList_eq text
      obtain ⟨digits, hsplit, -⟩ := isPlaced_toList_iff.mp hplaced
      exact h file digits text hsplit

/-- A number that does not fit ends no file, and zeros in front of a number do not count. -/
example :
    splitLocation? "A:4294967296 B:0000000000007 text".toList =
      some ("A:4294967296 B".toList, 7, "text".toList) := by
  decide

end FindingCheck
