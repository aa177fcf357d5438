import FindingCheck.Proofs.Patterns.Shapes
import FindingCheck.Vocabulary

/-!
# What the standard vocabulary reads

The standard vocabulary has five forms, one for each kind of facts. Which bodies state a fact can be
said without patterns: a body in the form of a kind states the fact with the fields that stand in
it, and every other body states nothing.

## Main definitions

* `Fact.IsStatedBy` — the bodies that state a fact
* `Vocabulary.Exclusive` — no two forms read one body

## Main statements

* `read?_wordThenLine`, `read?_markThenLine`, `read?_markThenTyped`, `read?_markThenBetween` — what
  forms of the four shapes read
* `Vocabulary.Exclusive.read?_perm` — the order of forms that exclude each other does not count
* `Vocabulary.standard_forms` — what the standard vocabulary reads
-/

namespace FindingCheck

open Pattern

/-- The body is a mark, a part without colons, a colon, and a part in one line. -/
structure IsTyped (start type value body : String) : Prop where
  text : body = start ++ type ++ ":" ++ value
  type : IsField ':' type.toList
  value : IsField '\n' value.toList

section Forms

variable {word start between name other written body : String} {fact : Fact}

theorem Grammar.read?_eq_some_iff {grammar : Grammar} :
    grammar.read? body = some fact ↔
      ∃ captures, grammar.pattern.matchWhole? body.toList = some captures ∧
        grammar.construct captures = fact :=
  Option.map_eq_some_iff

theorem toList_eq_append_iff {front : String} {rest : List Char} :
    body.toList = front.toList ++ rest ↔ body = front ++ String.ofList rest := by
  rw [← String.toList_inj, String.toList_append, String.toList_ofList]

theorem read?_wordThenLine (hword : word.toList.getLast?.any isWordChar = true) (stated : Fact) :
    (Grammar.mk written (wordThenLine word) fun _ => stated).read? body = some fact ↔
      (∃ rest : String, body = word ++ rest ∧ rest.toList.head?.any isWordChar = false ∧
        '\n' ∉ rest.toList) ∧ stated = fact := by
  rw [Grammar.read?_eq_some_iff]
  constructor
  · rintro ⟨captures, hmatch, hfact⟩
    obtain ⟨rest, htext, hhead, hline, -⟩ := (matchWhole?_wordThenLine hword).mp hmatch
    refine ⟨⟨String.ofList rest, toList_eq_append_iff.mp htext, ?_, ?_⟩, hfact⟩
    · rwa [String.toList_ofList]
    · rwa [String.toList_ofList]
  · rintro ⟨⟨rest, rfl, hhead, hline⟩, hfact⟩
    exact ⟨_, (matchWhole?_wordThenLine hword).mpr
      ⟨rest.toList, String.toList_append, hhead, hline, rfl⟩, hfact⟩

theorem read?_markThenLine (construct : String → Fact) :
    (Grammar.mk written (markThenLine start name) fun captures =>
      construct (captures.get name)).read? body = some fact ↔
      ∃ piece : String, body = start ++ piece ∧ IsField '\n' piece.toList ∧
        construct piece = fact := by
  rw [Grammar.read?_eq_some_iff]
  constructor
  · rintro ⟨captures, hmatch, rfl⟩
    obtain ⟨piece, htext, hpiece, rfl⟩ := matchWhole?_markThenLine.mp hmatch
    refine ⟨String.ofList piece, toList_eq_append_iff.mp htext, ?_, congrArg construct ?_⟩
    · rwa [String.toList_ofList]
    · exact (Captures.get_eq (htext.trans (List.append_nil _).symm) (by simp)).symm
  · rintro ⟨piece, rfl, hpiece, rfl⟩
    have htext : (start ++ piece).toList = start.toList ++ piece.toList := String.toList_append
    refine ⟨_, matchWhole?_markThenLine.mpr ⟨piece.toList, htext, hpiece, rfl⟩,
      congrArg construct ?_⟩
    rw [Captures.get_eq (htext.trans (List.append_nil _).symm) (by simp), String.ofList_toList]

theorem read?_markThenTyped (hname : name ≠ other) (construct : String → String → Fact) :
    (Grammar.mk written (markThenTyped start name other) fun captures =>
      construct (captures.get name) (captures.get other)).read? body = some fact ↔
      ∃ type value : String, IsTyped start type value body ∧ construct type value = fact := by
  rw [Grammar.read?_eq_some_iff]
  constructor
  · rintro ⟨captures, hmatch, rfl⟩
    obtain ⟨type, value, htext, htype, hvalue, rfl⟩ := matchWhole?_markThenTyped.mp hmatch
    have hget := @Captures.get_twoSpans _ _ hname body.toList start.toList type [':'] value
      (by rw [htext]; simp)
    refine ⟨String.ofList type, String.ofList value, ⟨?_, ?_, ?_⟩, ?_⟩
    · rw [← String.toList_inj, htext]
      simp
    · rwa [String.toList_ofList]
    · rwa [String.toList_ofList]
    · rw [← hget.1, ← hget.2]
      rfl
  · rintro ⟨type, value, ⟨rfl, htype, hvalue⟩, rfl⟩
    have htext : (start ++ type ++ ":" ++ value).toList =
        start.toList ++ type.toList ++ [':'] ++ value.toList := by
      simp
    obtain ⟨hfirst, hsecond⟩ := Captures.get_twoSpans hname htext
    refine ⟨_, matchWhole?_markThenTyped.mpr
      ⟨type.toList, value.toList, by rw [htext]; simp, htype, hvalue, rfl⟩, ?_⟩
    rw [String.ofList_toList] at hfirst hsecond
    exact (congrArg (construct · _) hfirst).trans (congrArg (construct type) hsecond)

/-- The body is a mark and two parts without colons, with a text between them. -/
structure IsBetween (start between first second body : String) : Prop where
  text : body = start ++ first ++ between ++ second
  first : IsField ':' first.toList
  second : IsField ':' second.toList

theorem isBetween_iff {first second : String} {ahead : List Char}
    (hbody : body.toList = start.toList ++ ahead) :
    IsBetween start between first second body ↔
      IsSplit between ahead first.toList second.toList := by
  have htext : body = start ++ first ++ between ++ second ↔
      ahead = first.toList ++ (between.toList ++ second.toList) := by
    rw [← String.toList_inj, hbody]
    simp
  exact ⟨fun h => ⟨htext.mp h.text, h.first, h.second⟩,
    fun h => ⟨htext.mpr h.text, h.first, h.second⟩⟩

theorem read?_markThenBetween (hname : name ≠ other) (construct : String → String → Fact) :
    (Grammar.mk written (markThenBetween start name between other) fun captures =>
      construct (captures.get name) (captures.get other)).read? body = some fact ↔
      ∃ first second : String, IsBetween start between first second body ∧
        (∀ piece rest, IsBetween start between piece rest body → first.length ≤ piece.length) ∧
        construct first second = fact := by
  rw [Grammar.read?_eq_some_iff]
  constructor
  · rintro ⟨captures, hmatch, rfl⟩
    obtain ⟨ahead, first, second, htext, hsplit, hshortest, rfl⟩ :=
      matchWhole?_markThenBetween.mp hmatch
    have hget := @Captures.get_twoSpans _ _ hname body.toList start.toList first between.toList
      second (by rw [htext, hsplit.text]; simp)
    refine ⟨String.ofList first, String.ofList second, (isBetween_iff htext).mpr ?_,
      fun piece rest hother => ?_, ?_⟩
    · rwa [String.toList_ofList, String.toList_ofList]
    · rw [String.length_ofList, ← String.length_toList]
      exact hshortest _ _ ((isBetween_iff htext).mp hother)
    · rw [← hget.1, ← hget.2]
  · rintro ⟨first, second, hbetween, hshortest, rfl⟩
    have htext : body.toList = start.toList ++ first.toList ++ between.toList ++ second.toList := by
      rw [hbetween.text]
      simp
    obtain ⟨hfirst, hsecond⟩ := Captures.get_twoSpans hname htext
    rw [List.append_assoc, List.append_assoc] at htext
    refine ⟨_, matchWhole?_markThenBetween.mpr ⟨_, _, _, htext, (isBetween_iff htext).mp hbetween,
      fun piece rest hother => ?_, rfl⟩, ?_⟩
    · have := hshortest (String.ofList piece) (String.ofList rest)
        ((isBetween_iff htext).mpr (by rwa [String.toList_ofList, String.toList_ofList]))
      rwa [String.length_ofList, ← String.length_toList] at this
    · rw [String.ofList_toList] at hfirst hsecond
      exact (congrArg (construct · _) hfirst).trans (congrArg (construct first) hsecond)

end Forms

/-- The bodies that state a fact in the standard vocabulary. -/
def Fact.IsStatedBy (body : String) : Fact → Prop
  | .nullnessMismatch =>
    ∃ rest, body = "jspecify_nullness_mismatch" ++ rest ∧
      rest.toList.head?.any isWordChar = false ∧ '\n' ∉ rest.toList
  | .cannotConvert source sink =>
    IsBetween "test:cannot-convert:" " to " source sink body ∧
      ∀ piece rest, IsBetween "test:cannot-convert:" " to " piece rest body →
        source.length ≤ piece.length
  | .expressionType type expression => IsTyped "test:expression-type:" type expression body
  | .annotationIrrelevant name =>
    body = "test:irrelevant-annotation:" ++ name ∧ IsField '\n' name.toList
  | .sinkType type sink => IsTyped "test:sink-type:" type sink body

namespace Vocabulary

/-- The patterns of the standard forms. -/
def standardPatterns : List Pattern := [
  wordThenLine "jspecify_nullness_mismatch",
  markThenBetween "test:cannot-convert:" "source" " to " "sink",
  markThenTyped "test:expression-type:" "type" "expression",
  markThenLine "test:irrelevant-annotation:" "annotation",
  markThenTyped "test:sink-type:" "type" "sink"]

/-- Each of the standard forms writes its pattern. -/
theorem parse?_standardForms :
    standardForms.map (fun form => parse? form.1) = standardPatterns.map some := by
  decide +kernel

theorem filterMap_compile? {forms : List (String × (Captures → Fact))} {patterns : List Pattern}
    (h : forms.map (fun form => parse? form.1) = patterns.map some) :
    forms.filterMap (fun form => Grammar.compile? form.1 form.2) =
      List.zipWith (fun form pattern => Grammar.mk form.1 pattern form.2) forms patterns := by
  induction forms generalizing patterns with
  | nil => rfl
  | cons form forms ih =>
    cases patterns with
    | nil => cases h
    | cons pattern patterns =>
      rw [List.map_cons, List.map_cons, List.cons.injEq] at h
      have hform : Grammar.compile? form.1 form.2 = some ⟨form.1, pattern, form.2⟩ := by
        rw [Grammar.compile?, h.1]
        rfl
      simp only [List.filterMap_cons, hform, ih h.2]
      rfl

theorem grammars_standard :
    standard.grammars =
      List.zipWith (fun form pattern => Grammar.mk form.1 pattern form.2) standardForms
        standardPatterns :=
  filterMap_compile? parse?_standardForms

/-- Each form reads the bodies that state the facts of one kind. -/
theorem read?_standard_getElem? {index : Nat} {grammar : Grammar}
    (h : standard.grammars[index]? = some grammar) {body : String} {fact : Fact} :
    grammar.read? body = some fact ↔ fact.IsStatedBy body ∧ fact.rank = index := by
  rw [grammars_standard] at h
  match index with
  | 0 =>
    obtain rfl := Option.some.inj h.symm
    refine (read?_wordThenLine (by decide +kernel) .nullnessMismatch).trans ?_
    constructor
    · rintro ⟨hbody, rfl⟩
      exact ⟨hbody, rfl⟩
    · rintro ⟨hbody, hrank⟩
      cases fact with
      | nullnessMismatch => exact ⟨hbody, rfl⟩
      | _ => cases hrank
  | 1 =>
    obtain rfl := Option.some.inj h.symm
    refine (read?_markThenBetween (by decide) .cannotConvert).trans ?_
    constructor
    · rintro ⟨source, sink, hbody, hshortest, rfl⟩
      exact ⟨⟨hbody, hshortest⟩, rfl⟩
    · rintro ⟨hbody, hrank⟩
      cases fact with
      | cannotConvert source sink => exact ⟨source, sink, hbody.1, hbody.2, rfl⟩
      | _ => cases hrank
  | 2 =>
    obtain rfl := Option.some.inj h.symm
    refine (read?_markThenTyped (by decide) .expressionType).trans ?_
    constructor
    · rintro ⟨type, expression, hbody, rfl⟩
      exact ⟨hbody, rfl⟩
    · rintro ⟨hbody, hrank⟩
      cases fact with
      | expressionType type expression => exact ⟨type, expression, hbody, rfl⟩
      | _ => cases hrank
  | 3 =>
    obtain rfl := Option.some.inj h.symm
    refine (read?_markThenLine .annotationIrrelevant).trans ?_
    constructor
    · rintro ⟨name, hbody, hname, rfl⟩
      exact ⟨⟨hbody, hname⟩, rfl⟩
    · rintro ⟨hbody, hrank⟩
      cases fact with
      | annotationIrrelevant name => exact ⟨name, hbody.1, hbody.2, rfl⟩
      | _ => cases hrank
  | 4 =>
    obtain rfl := Option.some.inj h.symm
    refine (read?_markThenTyped (by decide) .sinkType).trans ?_
    constructor
    · rintro ⟨type, sink, hbody, rfl⟩
      exact ⟨hbody, rfl⟩
    · rintro ⟨hbody, hrank⟩
      cases fact with
      | sinkType type sink => exact ⟨type, sink, hbody, rfl⟩
      | _ => cases hrank
  | index + 5 => cases h

end Vocabulary

/-- The first characters of the bodies that state the facts of a kind. -/
def openings : List String :=
  ["jspeci", "test:c", "test:e", "test:i", "test:s"]

/-- The first characters of a body tell the kind of the facts that it can state. -/
theorem Fact.IsStatedBy.opening {fact : Fact} {body : String} (h : fact.IsStatedBy body) :
    openings[fact.rank]? = some (String.ofList (body.toList.take 6)) := by
  cases fact with
  | nullnessMismatch =>
    obtain ⟨rest, rfl, -⟩ := h
    rw [String.toList_append]
    rfl
  | cannotConvert source sink =>
    rw [h.1.text, String.append_assoc, String.append_assoc, String.toList_append]
    rfl
  | expressionType type expression =>
    rw [h.text, String.append_assoc, String.append_assoc, String.toList_append]
    rfl
  | annotationIrrelevant name =>
    rw [h.1, String.toList_append]
    rfl
  | sinkType type sink =>
    rw [h.text, String.append_assoc, String.append_assoc, String.toList_append]
    rfl

theorem Fact.IsStatedBy.rank_eq {fact other : Fact} {body : String} (h : fact.IsStatedBy body)
    (h' : other.IsStatedBy body) : fact.rank = other.rank := by
  obtain ⟨hlength, -⟩ := List.getElem?_eq_some_iff.mp h.opening
  exact (List.getElem?_inj hlength (by decide)).mp (h.opening.trans h'.opening.symm)

/-- A fact that is no mismatch is stated by one body at most. -/
theorem Fact.IsStatedBy.unique {fact : Fact} {body other : String}
    (hfact : fact ≠ .nullnessMismatch) (h : fact.IsStatedBy body) (h' : fact.IsStatedBy other) :
    body = other := by
  cases fact with
  | nullnessMismatch => exact absurd rfl hfact
  | cannotConvert source sink => rw [h.1.text, h'.1.text]
  | expressionType type expression => rw [h.text, h'.text]
  | annotationIrrelevant name => rw [h.1, h'.1]
  | sinkType type sink => rw [h.text, h'.text]

namespace Vocabulary

/-- No two forms read one body. -/
def Exclusive (vocabulary : Vocabulary) : Prop :=
  vocabulary.grammars.Pairwise fun first second =>
    ∀ body, first.read? body = none ∨ second.read? body = none

/-- Then a body is read if some form reads it. -/
theorem Exclusive.read?_eq_some_iff {vocabulary : Vocabulary} (h : vocabulary.Exclusive)
    {body : String} {fact : Fact} :
    vocabulary.read? body = some fact ↔
      ∃ grammar ∈ vocabulary.grammars, grammar.read? body = some fact := by
  obtain ⟨grammars⟩ := vocabulary
  constructor
  · exact List.exists_of_findSome?_eq_some
  · rintro ⟨grammar, hmem, hread⟩
    obtain ⟨front, back, rfl⟩ := List.append_of_mem hmem
    refine List.findSome?_eq_some_iff.mpr ⟨front, grammar, back, rfl, hread, fun other hother => ?_⟩
    have hnone := (List.pairwise_append.mp h).2.2 other hother grammar List.mem_cons_self body
    exact hnone.resolve_right (by simp [hread])

/-- The order of the forms does not count. -/
theorem Exclusive.read?_perm {vocabulary : Vocabulary} (h : vocabulary.Exclusive)
    {grammars : List Grammar} (hperm : grammars.Perm vocabulary.grammars) (body : String) :
    (Vocabulary.mk grammars).read? body = vocabulary.read? body := by
  have hexclusive : (Vocabulary.mk grammars).Exclusive :=
    (hperm.pairwise_iff fun hpair body => (hpair body).symm).mpr h
  refine Option.ext fun fact => ?_
  rw [hexclusive.read?_eq_some_iff, h.read?_eq_some_iff]
  simp only [hperm.mem_iff]

theorem exclusive_standard : standard.Exclusive := by
  refine List.pairwise_iff_getElem.mpr fun i j hi hj hlt body => ?_
  cases hfact : (standard.grammars[i]).read? body with
  | none => exact .inl rfl
  | some fact =>
    refine .inr (Option.eq_none_iff_forall_ne_some.mpr fun other hother => ?_)
    obtain ⟨hbody, rfl⟩ := (read?_standard_getElem? (List.getElem?_eq_getElem hi)).mp hfact
    obtain ⟨hbody', rfl⟩ := (read?_standard_getElem? (List.getElem?_eq_getElem hj)).mp hother
    exact absurd (hbody.rank_eq hbody') (Nat.ne_of_lt hlt)

theorem length_standard : standard.grammars.length = 5 := by
  rw [grammars_standard]
  rfl

theorem read?_standard_eq_some_iff {body : String} {fact : Fact} :
    standard.read? body = some fact ↔ fact.IsStatedBy body := by
  rw [exclusive_standard.read?_eq_some_iff]
  constructor
  · rintro ⟨grammar, hmem, hread⟩
    obtain ⟨index, hindex⟩ := List.mem_iff_getElem?.mp hmem
    exact ((read?_standard_getElem? hindex).mp hread).1
  · intro h
    have hrank : fact.rank < standard.grammars.length := by
      rw [length_standard]
      cases fact <;> simp [Fact.rank]
    exact ⟨_, List.getElem_mem hrank,
      (read?_standard_getElem? (List.getElem?_eq_getElem hrank)).mpr ⟨h, rfl⟩⟩

/-- What the standard vocabulary reads. It has five forms, one for each kind of facts, and a
body states a fact if it is written in the form of its kind. No body is in two of the forms, so
their order does not count. A fact that is no mismatch has one body only. -/
theorem standard_forms (body : String) :
    standard.size = 5 ∧
    (∀ index (grammar : Grammar), standard.grammars[index]? = some grammar → ∀ fact : Fact,
      grammar.read? body = some fact ↔ fact.IsStatedBy body ∧ fact.rank = index) ∧
    (∀ fact : Fact, standard.read? body = some fact ↔ fact.IsStatedBy body) ∧
    (standard.read? body = none ↔ ∀ fact : Fact, ¬fact.IsStatedBy body) ∧
    standard.grammars.Pairwise
      (fun first second => first.read? body = none ∨ second.read? body = none) ∧
    (∀ grammars, grammars.Perm standard.grammars →
      (Vocabulary.mk grammars).read? body = standard.read? body) ∧
    ∀ fact other, fact ≠ .nullnessMismatch → standard.read? body = some fact →
      standard.read? other = some fact → other = body := by
  refine ⟨length_standard, fun index grammar h fact => read?_standard_getElem? h,
    fun fact => read?_standard_eq_some_iff, ?_, ?_,
    fun grammars hperm => exclusive_standard.read?_perm hperm body,
    fun fact other hfact hbody hother => ?_⟩
  · rw [Option.eq_none_iff_forall_ne_some]
    exact forall_congr' fun fact => not_congr read?_standard_eq_some_iff
  · exact exclusive_standard.imp fun hpair => hpair body
  · exact (read?_standard_eq_some_iff.mp hother).unique hfact
      (read?_standard_eq_some_iff.mp hbody)

end Vocabulary

/-- A body that could be split at two places. -/
def doubleConversion : String :=
  "test:cannot-convert:a to b to c"

theorem standard_forms_doubleConversion :
    Vocabulary.standard.read? doubleConversion = some (.cannotConvert "a" "b to c") ∧
    (Fact.cannotConvert "a" "b to c").IsStatedBy doubleConversion ∧
    ∀ other, Vocabulary.standard.read? other = some (.cannotConvert "a" "b to c") →
      other = doubleConversion := by
  have hread : Vocabulary.standard.read? doubleConversion = some (.cannotConvert "a" "b to c") := by
    decide +kernel
  obtain ⟨-, -, hstated, -, -, -, hunique⟩ := Vocabulary.standard_forms doubleConversion
  exact ⟨hread, (hstated _).mp hread, fun other hother =>
    hunique _ other Fact.noConfusion hread hother⟩

end FindingCheck
