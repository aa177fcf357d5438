import FindingCheck.Proofs.AssertionOrder
import Mathlib.Tactic.SplitIfs

/-!
# The laws of the order

Reports are sorted, put together and compared by the order of assertions, so all of this rests on
the order being total and on its agreeing with equality. Texts are compared character by character.
That is the order of their bytes as well, because UTF-8 writes greater characters as greater bytes.

## Main definitions

* `textBytes` — the bytes of a text

## Main statements

* `compare_textBytes` — texts compare as their bytes do
* `Assertion.compare_laws` — the order of assertions is total and agrees with equality, and what it
  is within a file
-/

namespace FindingCheck

/-! ### The order of bytes -/

/-- The bytes of a text in UTF-8. -/
def textBytes (text : String) : List UInt8 :=
  text.toUTF8.data.toList

theorem textBytes_eq (text : String) :
    textBytes text = text.toList.flatMap String.utf8EncodeChar := by
  have hbytes : text.toByteArray = text.toList.utf8Encode := by
    rw [← String.toByteArray_ofList, String.ofList_toList]
  rw [textBytes, String.toUTF8_eq_toByteArray, hbytes, List.utf8Encode, List.data_toByteArray]

theorem compare_append (front xs ys : List UInt8) :
    compare (front ++ xs) (front ++ ys) = compare xs ys := by
  induction front with
  | nil => rfl
  | cons byte front ih =>
    rw [List.cons_append, List.cons_append, List.compare_cons_cons, Std.ReflOrd.compare_self, ih]
    rfl

theorem compare_byte {m n : Nat} (hm : m < 256) (hn : n < 256) :
    compare (UInt8.ofNat m) (UInt8.ofNat n) = compare m n := by
  have hlt : UInt8.ofNat m < UInt8.ofNat n ↔ m < n := by
    rw [UInt8.lt_iff_toNat_lt, UInt8.toNat_ofNat_of_lt' hm, UInt8.toNat_ofNat_of_lt' hn]
  have heq : UInt8.ofNat m = UInt8.ofNat n ↔ m = n := by
    rw [← UInt8.toNat_inj, UInt8.toNat_ofNat_of_lt' hm, UInt8.toNat_ofNat_of_lt' hn]
  show compareOfLessAndEq _ _ = compareOfLessAndEq _ _
  simp only [compareOfLessAndEq, hlt, heq]

theorem toNat_val_lt (c : Char) : c.val.toNat < 0x110000 := by
  rcases c.valid with h | ⟨-, h⟩
  · exact Nat.lt_trans h (by decide)
  · exact h

/-- Of two characters, the smaller one has the smaller bytes, whatever follows. -/
theorem compare_utf8EncodeChar {c d : Char} (h : c < d) (xs ys : List UInt8) :
    compare (String.utf8EncodeChar c ++ xs) (String.utf8EncodeChar d ++ ys) = .lt := by
  have hlt : c.val.toNat < d.val.toNat := h
  have hbound : d.val.toNat < 0x110000 := toNat_val_lt d
  unfold String.utf8EncodeChar
  generalize c.val.toNat = m at hlt ⊢
  generalize d.val.toNat = n at hlt hbound ⊢
  -- the first of four bytes holds all the bits that the others leave
  have htop : m / 262144 % 8 = m / 262144 ∧ n / 262144 % 8 = n / 262144 := by omega
  simp only [htop]
  -- one case for each pair of lengths
  split_ifs <;>
    simp (disch := omega) only [List.cons_append, List.nil_append, List.compare_cons_cons,
      compare_byte, Ordering.then_eq_lt, Nat.compare_eq_lt, Nat.compare_eq_eq] <;>
    omega

theorem compare_flatMap_of_lt {xs ys : List Char} (h : xs < ys) :
    compare (xs.flatMap String.utf8EncodeChar) (ys.flatMap String.utf8EncodeChar) = .lt := by
  induction h with
  | @nil c rest =>
    obtain ⟨byte, more, hbytes⟩ := List.exists_cons_of_ne_nil (@String.utf8EncodeChar_ne_nil c)
    rw [List.flatMap_cons, hbytes]
    rfl
  | rel h => exact compare_utf8EncodeChar h _ _
  | cons _ ih => rw [List.flatMap_cons, List.flatMap_cons, compare_append, ih]

/-- Texts compare as their bytes do. -/
theorem compare_textBytes (a b : String) :
    compare (textBytes a) (textBytes b) = compare a b := by
  have hlt : ∀ {a b : String}, compare a b = .lt →
      compare (textBytes a) (textBytes b) = .lt := by
    intro a b h
    rw [textBytes_eq, textBytes_eq]
    exact compare_flatMap_of_lt (String.lt_iff.mp (compareOfLessAndEq_eq_lt.mp h))
  cases hcompare : compare a b with
  | lt => exact hlt hcompare
  | eq =>
    rw [Std.LawfulEqOrd.eq_of_compare hcompare]
    exact Std.ReflOrd.compare_self
  | gt => exact Std.OrientedCmp.gt_iff_lt.mpr (hlt (Std.OrientedCmp.gt_iff_lt.mp hcompare))

/-! ### The order of assertions -/

namespace Assertion

/-- Exactly one of before, equal and behind holds of two assertions. -/
theorem count_compare (a b : Assertion) :
    [compare a b == .lt, a == b, compare a b == .gt].count true = 1 := by
  have hequal : (a == b) = (compare a b == .eq) := by
    rw [Bool.eq_iff_iff, ← compare_eq_iff, beq_iff_eq]
  rw [hequal]
  cases compare a b <;> rfl

/-- Assertions about different files compare as their files do. -/
theorem compare_of_differs {a b : Assertion} (h : (a.file == b.file) = false) :
    compare a b = compare a.file b.file := by
  show (compare a.file b.file).then _ = _
  cases hfiles : compare a.file b.file with
  | lt => rfl
  | gt => rfl
  | eq =>
    rw [Path.compare_eq_iff.mp hfiles] at h
    cases h

/-- The order of assertions is total and agrees with equality. Files come one after the other.
Within a file the expectations come before the assertion on the whole file, and they are ordered by
line, by the bytes of their text and by fact. -/
theorem compare_laws (a b c : Assertion) :
    [compare a b == .lt, a == b, compare a b == .gt].count true = 1 ∧
      (compare a b = .eq ↔ (a == b) = true) ∧
      compare b a = (compare a b).swap ∧
      (compare a b = .lt → compare b c = .lt → compare a c = .lt) ∧
      ((a.file == b.file) = false → compare a b = compare a.file b.file) ∧
      (∀ (x : Expectation) (file : Path), (x.file == file) = true →
        compare (expected x) (noUnexpected file) = .lt) ∧
      ∀ x y : Expectation, (x.file == y.file) = true →
        compare (expected x) (expected y) = (compare x.line y.line).then
          ((compare (textBytes x.text) (textBytes y.text)).then (compare x.fact y.fact)) := by
  refine ⟨count_compare a b, compare_eq_iff, Std.OrientedCmp.eq_swap, Std.TransCmp.lt_trans,
    compare_of_differs, fun x file => compare_expected_noUnexpected, fun x y hfile => ?_⟩
  rw [compare_textBytes, compare_expected hfile]

end Assertion

/-- An expectation for line 7 of a file. -/
def lineSeven (file text : String) : Expectation :=
  ⟨⟨file⟩, 7, text, .nullnessMismatch⟩

/-- Three spellings of one file, two texts that differ in a character of two bytes, and another
file. -/
theorem compare_laws_respelledFile :
    compare (Assertion.expected (lineSeven "a/B.java" "\u00ff"))
        (.expected (lineSeven "a//./B.java" "\u0100")) = .lt ∧
      compare (Assertion.expected (lineSeven "a//./B.java" "\u0100"))
        (.noUnexpected ⟨"a/B.java/"⟩) = .lt ∧
      compare (Assertion.expected (lineSeven "a/B.java" "\u00ff"))
        (.noUnexpected ⟨"a/B.java/"⟩) = .lt ∧
      compare (Assertion.noUnexpected ⟨"a/B.java/"⟩)
        (.expected (lineSeven "a/C.java" "\u00ff")) = .lt := by
  obtain ⟨-, -, -, htrans, -, hwhole, hwithin⟩ :=
    Assertion.compare_laws (.expected (lineSeven "a/B.java" "\u00ff"))
      (.expected (lineSeven "a//./B.java" "\u0100")) (.noUnexpected ⟨"a/B.java/"⟩)
  obtain ⟨-, -, -, -, hfiles, -, -⟩ :=
    Assertion.compare_laws (.noUnexpected ⟨"a/B.java/"⟩)
      (.expected (lineSeven "a/C.java" "\u00ff")) (.noUnexpected ⟨"a/B.java/"⟩)
  have hearlier : compare (Assertion.expected (lineSeven "a/B.java" "\u00ff"))
      (.expected (lineSeven "a//./B.java" "\u0100")) = .lt := by
    rw [hwithin (lineSeven "a/B.java" "\u00ff") (lineSeven "a//./B.java" "\u0100") (by decide)]
    decide +kernel
  have hlater := hwhole (lineSeven "a//./B.java" "\u0100") ⟨"a/B.java/"⟩ (by decide)
  refine ⟨hearlier, hlater, htrans hearlier hlater, ?_⟩
  rw [hfiles (by decide)]
  decide

end FindingCheck
