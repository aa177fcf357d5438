import FindingCheck.Proofs.Matching.Renumbering
import Mathlib.Data.List.Sort

/-!
# Expectations and findings in pairs

A pairing gives some expectations a finding each, and no finding to two of them. The one that comes
of letting the expectations take findings in order cannot be extended: what is left over on the line
of an expectation that took nothing does not satisfy it. Pairings speak of positions, because equal
expectations and equal findings can stand in a list several times.

## Main definitions

* `Pairing` — findings for expectations, one to one
* `Pairing.IsMaximal` — no pair can be added
* `Pairing.pairsOn` — how many expectations on a line have a finding

## Main statements

* `pairwise_sortOn_of_pairwise` — what a stable sort adds to an order that was there before
* `Matching.claim_some`, `Matching.claim_none` — what an expectation took, and what it left
* `matchFile_pairing` — the report on a file is that of a maximal pairing
-/

namespace FindingCheck

variable {α : Type} [Finding α]

/-- Findings for expectations. No finding goes to two, and each is on the line of its
expectation and satisfies it. -/
structure Pairing (expectations : List Expectation) (findings : List α) where
  /-- The position of an expectation's finding, if it has one. -/
  finding? : Fin expectations.length → Option (Fin findings.length)
  accepts : ∀ i k, finding? i = some k → expectations[i].accepts findings[k] = true
  injective : ∀ i j k, finding? i = some k → finding? j = some k → i = j

namespace Pairing

variable {expectations : List Expectation} {findings : List α}

/-- The finding at a position goes to no expectation. -/
def Spares (pairing : Pairing expectations findings) (k : Fin findings.length) : Prop :=
  ∀ i, pairing.finding? i ≠ some k

/-- Nothing that is spared could go to an expectation that has nothing. -/
def IsMaximal (pairing : Pairing expectations findings) : Prop :=
  ∀ i k, pairing.finding? i = none → pairing.Spares k →
    expectations[i].accepts findings[k] = false

/-- How many expectations on a line have a finding. -/
def pairsOn (pairing : Pairing expectations findings) (line : UInt32) : Nat :=
  (List.finRange expectations.length).countP fun i =>
    (pairing.finding? i).isSome && expectations[i].line == line

end Pairing

/-- Things that were in some order are sorted by their keys and by that order where the keys are
equal. -/
theorem pairwise_sortOn_of_pairwise {γ β : Type} [Ord β] [Std.TransOrd β] {key : γ → β}
    {R : γ → γ → Prop} {xs : List γ} (h : xs.Pairwise R) :
    (sortOn key xs).Pairwise fun a b =>
      compare (key a) (key b) = .lt ∨ compare (key a) (key b) = .eq ∧ R a b := by
  rw [List.pairwise_iff_forall_sublist]
  intro a b hab
  have hle : notBehind key a b = true :=
    List.pairwise_iff_forall_sublist.mp (pairwise_sortOn key xs) hab
  cases hcompare : compare (key a) (key b) with
  | lt => exact .inl rfl
  | gt =>
    rw [notBehind, hcompare] at hle
    cases hle
  | eq =>
    refine .inr ⟨rfl, ?_⟩
    -- both are in the tie of `b`, which the sort left in the order in which it was
    have htie : [a, b].Sublist (tie key (key b) xs) := by
      have hpair : tie key (key b) [a, b] = [a, b] := by
        simp [tie_cons, tie_nil, hcompare, Std.ReflOrd.compare_self]
      rw [← tie_sortOn, ← hpair]
      exact hab.filter _
    exact List.pairwise_iff_forall_sublist.mp (h.sublist List.filter_sublist) htie

namespace Matching

theorem claim_some {expectations : List Expectation} {findings : List α} :
    ∀ claim ∈ (settle expectations findings).claims, ∀ finding, claim.2 = some finding →
      claim.1.accepts finding = true := by
  induction expectations generalizing findings with
  | nil => simp [settle]
  | cons expectation more ih =>
    intro claim hclaim finding hfinding
    rcases List.mem_cons.mp hclaim with rfl | hlater
    · exact List.find?_some hfinding
    · exact ih claim hlater finding hfinding

theorem unclaimed_sublist (expectations : List Expectation) (findings : List α) :
    (settle expectations findings).unclaimed.Sublist findings := by
  induction expectations generalizing findings with
  | nil => exact List.Sublist.refl _
  | cons expectation more ih => exact (ih _).trans List.eraseP_sublist

/-- What is left over in the end was there when an expectation took nothing, so the expectation
does not accept it. -/
theorem claim_none {expectations : List Expectation} {findings : List α} :
    ∀ claim ∈ (settle expectations findings).claims, claim.2 = none →
      ∀ finding ∈ (settle expectations findings).unclaimed, claim.1.accepts finding = false := by
  induction expectations generalizing findings with
  | nil => simp [settle]
  | cons expectation more ih =>
    intro claim hclaim hnone finding hfinding
    rcases List.mem_cons.mp hclaim with rfl | hlater
    · have hleft : finding ∈ findings :=
        ((unclaimed_sublist more _).trans List.eraseP_sublist).subset hfinding
      simpa using List.find?_eq_none.mp hnone finding hleft
    · exact ih claim hlater hnone finding hfinding

theorem length_claims_settle (expectations : List Expectation) (findings : List α) :
    (settle expectations findings).claims.length = expectations.length := by
  rw [← List.length_map (f := Prod.fst), map_fst_claims_settle]

end Matching

/-! ### Positions -/

/-- A position in a list of findings stands for the finding there. -/
instance Finding.ofPosition (findings : List α) : Finding (Fin findings.length) where
  file k := Finding.file findings[k]
  line k := Finding.line findings[k]
  mustBeExpected k := Finding.mustBeExpected findings[k]
  text k := Finding.text findings[k]
  satisfies k := Finding.satisfies findings[k]

theorem keepsOrder_id : KeepsOrder id fun _ => True :=
  fun _ _ _ _ => rfl

theorem Finding.renumbers_ofPosition (findings : List α) :
    Finding.Renumbers id (fun k : Fin findings.length => findings[k]) where
  file _ := rfl
  line _ := rfl
  mustBeExpected _ := rfl
  text _ := rfl
  satisfies _ _ := rfl

namespace Matching

/-- Which expectation takes the finding at which position. -/
def positions (expectations : List Expectation) (findings : List α) :
    Matching (Fin findings.length) :=
  settle expectations (List.finRange findings.length)

variable (expectations : List Expectation) (findings : List α)

theorem renumber_positions :
    (positions expectations findings).renumber id (fun k => findings[k]) =
      settle expectations findings := by
  have hsettle : settle (expectations.map (Expectation.renumber id))
      ((List.finRange findings.length).map fun k => findings[k]) = _ :=
    settle_renumber keepsOrder_id (Finding.renumbers_ofPosition findings)
      (fun _ _ => trivial) (fun _ _ => trivial)
  rw [positions, ← hsettle]
  congr 1
  · exact List.map_id' expectations
  · exact List.map_getElem_finRange findings

theorem length_claims_positions :
    (positions expectations findings).claims.length = expectations.length :=
  length_claims_settle _ _

/-- What the expectation at a position took. -/
def claimOf (i : Fin expectations.length) : Expectation × Option (Fin findings.length) :=
  (positions expectations findings).claims.get
    (i.cast (length_claims_positions expectations findings).symm)

theorem claimOf_mem (i : Fin expectations.length) :
    claimOf expectations findings i ∈ (positions expectations findings).claims :=
  List.getElem_mem _

theorem exists_claimOf {claim : Expectation × Option (Fin findings.length)}
    (h : claim ∈ (positions expectations findings).claims) :
    ∃ i, claimOf expectations findings i = claim := by
  obtain ⟨i, hi, rfl⟩ := List.getElem_of_mem h
  rw [length_claims_positions] at hi
  exact ⟨⟨i, hi⟩, rfl⟩

theorem claims_positions_eq_ofFn :
    (positions expectations findings).claims = List.ofFn (claimOf expectations findings) := by
  apply List.ext_getElem
  · rw [length_claims_positions, List.length_ofFn]
  · intro i hi hi'
    rw [List.getElem_ofFn]
    rfl

theorem fst_claimOf (i : Fin expectations.length) :
    (claimOf expectations findings i).1 = expectations[i] := by
  have hfst : (positions expectations findings).claims.map Prod.fst = expectations :=
    map_fst_claims_settle _ _
  have hget : ((positions expectations findings).claims.map Prod.fst)[i.val]? =
      expectations[i.val]? := by
    rw [hfst]
  rw [claims_positions_eq_ofFn, List.map_ofFn, List.getElem?_ofFn, dif_pos i.isLt,
    List.getElem?_eq_getElem i.isLt] at hget
  exact Option.some.inj hget

/-- No position is taken twice, and what is taken is not left over. -/
theorem nodup_positions :
    ((positions expectations findings).claims.filterMap Prod.snd ++
      (positions expectations findings).unclaimed).Nodup :=
  (perm_settle expectations (List.finRange findings.length)).nodup_iff.mp (List.nodup_finRange _)

theorem mem_unclaimed_positions_iff (k : Fin findings.length) :
    k ∈ (positions expectations findings).unclaimed ↔
      ∀ i, (claimOf expectations findings i).2 ≠ some k := by
  have hall : k ∈ (positions expectations findings).claims.filterMap Prod.snd ++
      (positions expectations findings).unclaimed :=
    (perm_settle expectations (List.finRange findings.length)).mem_iff.mp (List.mem_finRange k)
  constructor
  · intro hleft i hk
    have htaken : k ∈ (positions expectations findings).claims.filterMap Prod.snd :=
      List.mem_filterMap.mpr ⟨_, claimOf_mem expectations findings i, hk⟩
    exact (List.nodup_append.mp (nodup_positions expectations findings)).2.2 k htaken k hleft rfl
  · intro hspared
    rcases List.mem_append.mp hall with htaken | hleft
    · obtain ⟨claim, hclaim, hk⟩ := List.mem_filterMap.mp htaken
      obtain ⟨i, rfl⟩ := exists_claimOf expectations findings hclaim
      exact absurd hk (hspared i)
    · exact hleft

/-- Two expectations that took the finding at one position are one. -/
theorem claimOf_injective {i j : Fin expectations.length} {k : Fin findings.length}
    (hi : (claimOf expectations findings i).2 = some k)
    (hj : (claimOf expectations findings j).2 = some k) : i = j := by
  have hpairwise := List.pairwise_filterMap.mp
    (List.nodup_append.mp (nodup_positions expectations findings)).1
  rw [claims_positions_eq_ofFn, List.pairwise_ofFn] at hpairwise
  rcases lt_trichotomy i j with hlt | heq | hgt
  · exact absurd rfl (hpairwise hlt k hi k hj)
  · exact heq
  · exact absurd rfl (hpairwise hgt k hj k hi)

/-- The pairing that comes of taking findings in order. -/
def pairing : Pairing expectations findings where
  finding? i := (claimOf expectations findings i).2
  accepts i k hk := by
    have haccepts : (claimOf expectations findings i).1.accepts k = true :=
      claim_some _ (claimOf_mem expectations findings i) k hk
    rw [fst_claimOf] at haccepts
    exact haccepts
  injective i j k hi hj := claimOf_injective expectations findings hi hj

theorem isMaximal_pairing : (pairing expectations findings).IsMaximal := by
  intro i k hnone hspares
  have hleft := (mem_unclaimed_positions_iff expectations findings k).mpr hspares
  have hrejects : (claimOf expectations findings i).1.accepts k = false :=
    claim_none _ (claimOf_mem expectations findings i) hnone k hleft
  rw [fst_claimOf] at hrejects
  exact hrejects

theorem claimOutcomes_settle :
    (settle expectations findings).claimOutcomes =
      List.ofFn fun i => Outcome.ofExpectation expectations[i]
        ((pairing expectations findings).finding? i).isSome := by
  rw [← renumber_positions, claimOutcomes, renumber, List.map_map, claims_positions_eq_ofFn,
    List.map_ofFn]
  congr 1
  funext i
  show Outcome.ofExpectation ((claimOf expectations findings i).1.renumber id)
    ((claimOf expectations findings i).2.map _).isSome = _
  rw [Option.isSome_map, fst_claimOf]
  rfl

theorem leftovers_settle :
    (settle expectations findings).leftovers =
      (sortOn Finding.line (positions expectations findings).unclaimed).map fun k =>
        Leftover.ofFinding findings[k] := by
  have hleft : ((positions expectations findings).renumber id fun k => findings[k]).leftovers = _ :=
    leftovers_renumber keepsOrder_id (Finding.renumbers_ofPosition findings) (fun _ _ => trivial)
  rw [renumber_positions] at hleft
  rw [hleft, leftovers, List.map_map]
  rfl

end Matching

/-- The expectations for a file. -/
def Expectation.inFile (file : Path) (expectations : List Expectation) : List Expectation :=
  expectations.filter (·.file == file)

/-- The findings in a file. -/
def Finding.inFile (file : Path) (findings : List α) : List α :=
  findings.filter (Finding.file · == file)

/-- The report on a file is that of a maximal pairing of the expectations for the file with the
findings in it. An expectation passes if it has a finding. What goes to no expectation is left over,
by line and on a line in the order in which it was reported, and the file passes if nothing of it
must be expected. -/
theorem matchFile_pairing (file : Path) (expectations : List Expectation) (findings : List α) :
    ∃ (pairing : Pairing (Expectation.inFile file expectations) (Finding.inFile file findings))
      (left : List (Fin (Finding.inFile file findings).length)),
      pairing.IsMaximal ∧
      (∀ k, k ∈ left ↔ pairing.Spares k) ∧
      left.Pairwise (fun a b => Finding.line a < Finding.line b ∨
        Finding.line a = Finding.line b ∧ a < b) ∧
      (matchFile file expectations findings).outcomes =
        sortOn Outcome.assertion (List.ofFn fun i =>
          Outcome.ofExpectation (Expectation.inFile file expectations)[i]
            (pairing.finding? i).isSome) ++
        [{ assertion := .noUnexpected file
           passed := decide (∀ k ∈ left, Finding.mustBeExpected k = false)
           leftovers := left.map fun k =>
             { line := Finding.line k
               mustBeExpected := Finding.mustBeExpected k
               text := Finding.text k } }] := by
  let es := Expectation.inFile file expectations
  let fs := Finding.inFile file findings
  refine ⟨Matching.pairing es fs, sortOn Finding.line (Matching.positions es fs).unclaimed,
    Matching.isMaximal_pairing es fs, ?_, ?_, ?_⟩
  · intro k
    rw [(perm_sortOn _ _).mem_iff]
    exact Matching.mem_unclaimed_positions_iff es fs k
  · have hascends : (Matching.positions es fs).unclaimed.Pairwise (· < ·) :=
      (List.sortedLT_finRange fs.length).pairwise.sublist (Matching.unclaimed_sublist _ _)
    refine (pairwise_sortOn_of_pairwise hascends).imp fun {a b} hab => ?_
    rcases hab with hlt | ⟨heq, hab⟩
    · exact .inl (compareOfLessAndEq_eq_lt.mp hlt)
    · exact .inr ⟨Std.LawfulEqOrd.eq_of_compare heq, hab⟩
  · have hclaims := Matching.claimOutcomes_settle es fs
    have hleft := Matching.leftovers_settle es fs
    have hpassed (left : List (Fin fs.length)) :
        (!(left.map fun k => Leftover.ofFinding fs[k]).any (·.mustBeExpected)) =
          decide (∀ k ∈ left, Finding.mustBeExpected k = false) := by
      rw [Bool.eq_iff_iff, Bool.not_eq_true', List.any_map, List.any_eq_false, decide_eq_true_iff]
      refine forall₂_congr fun k _ => ?_
      rw [Bool.not_eq_true]
      rfl
    rw [outcomes_matchFile, Matching.ofFile, ← Expectation.inFile, ← Finding.inFile, hclaims, hleft,
      Outcome.ofLeftovers, hpassed]
    rfl

end FindingCheck
