/-!
# Facts

A fact is what a directive comment says of a line of code. The kinds are fixed; a directive
grammar decides how each is written.

## Main definitions

* `Fact` — the kinds with their fields
* `Fact.name` — the short name of a kind
-/

namespace FindingCheck

/-- What a directive says of the line that it decorates. -/
inductive Fact where
  /-- The analyzer reports some nullness mismatch. -/
  | nullnessMismatch
  /-- A value of one type cannot go where the other type is wanted. -/
  | cannotConvert (source sink : String)
  /-- An expression has a type. -/
  | expressionType (type expression : String)
  /-- An annotation has no effect where it stands. -/
  | annotationIrrelevant (name : String)
  /-- A place that takes values has a type. -/
  | sinkType (type sink : String)
deriving DecidableEq, Repr

namespace Fact

/-- The short name of a fact's kind. -/
def name : Fact → String
  | nullnessMismatch => "nullness-mismatch"
  | cannotConvert .. => "cannot-convert"
  | expressionType .. => "expression-type"
  | annotationIrrelevant .. => "irrelevant-annotation"
  | sinkType .. => "sink-type"

/-- The position of a fact's kind in the order. -/
def rank : Fact → Nat
  | nullnessMismatch => 0
  | cannotConvert .. => 1
  | expressionType .. => 2
  | annotationIrrelevant .. => 3
  | sinkType .. => 4

/-- The fields of a fact, in the order in which they are compared. -/
def fields : Fact → List String
  | nullnessMismatch => []
  | cannotConvert source sink => [source, sink]
  | expressionType type expression => [type, expression]
  | annotationIrrelevant name => [name]
  | sinkType type sink => [type, sink]

/-- Facts are ordered by kind and then field by field. -/
instance : Ord Fact where
  compare := compareLex (compareOn rank) (compareOn fields)

/-- Kind and fields determine a fact. -/
theorem eq_of_rank_of_fields {a b : Fact} (hrank : a.rank = b.rank)
    (hfields : a.fields = b.fields) : a = b := by
  cases a <;> cases b <;> simp_all [rank, fields]

instance : Std.TransOrd Fact :=
  inferInstanceAs (Std.TransCmp (compareLex (compareOn rank) (compareOn fields)))

instance : Std.LawfulEqOrd Fact where
  eq_of_compare {a b} h := by
    obtain ⟨hrank, hfields⟩ := Ordering.then_eq_eq.mp h
    exact eq_of_rank_of_fields (Std.LawfulEqOrd.eq_of_compare hrank)
      (Std.LawfulEqOrd.eq_of_compare hfields)

end Fact

end FindingCheck
