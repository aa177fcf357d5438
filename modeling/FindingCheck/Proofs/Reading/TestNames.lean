import FindingCheck.Proofs.Reading.Acceptance
import FindingCheck.Proofs.Reading.Shifted

/-!
# The names of the tests of a text

The names are kept by the line of code that a test decorates. They are the names of the named tests,
each line has one at most, and a name on several lines is reported once, with all of these lines.

## Main definitions

* `Annotations.linesOf` — the lines whose tests bear a name

## Main statements

* `nameOf?_ofText_eq_some_iff` — the name on a line of code
* `filter_defects_ofText` — what is reported of a name
* `names_read` — the names of a text and what is reported of them
-/

namespace FindingCheck

/-- The lines whose tests bear a name, ascending. -/
def Annotations.linesOf (annotations : Annotations) (name : String) : List UInt32 :=
  (annotations.names.filter (·.2 == name)).map (·.1)

theorem Annotations.nameOf?_eq_some_iff {annotations : Annotations}
    (hlines : (annotations.names.map (·.1)).Nodup) {line : UInt32} {name : String} :
    annotations.nameOf? line = some name ↔ (line, name) ∈ annotations.names := by
  rw [nameOf?, Option.map_eq_some_iff]
  constructor
  · rintro ⟨⟨line', name'⟩, hfind, rfl⟩
    obtain rfl : line' = line := by simpa using List.find?_some hfind
    exact List.mem_of_find?_eq_some hfind
  · intro hmem
    have hsome : (annotations.names.find? (·.1 == line)).isSome :=
      List.find?_isSome.mpr ⟨(line, name), hmem, beq_self_eq_true line⟩
    obtain ⟨entry, hfind⟩ := Option.isSome_iff_exists.mp hsome
    have hline : entry.1 = line := by simpa using List.find?_some hfind
    have hentry : entry = (line, name) :=
      List.inj_on_of_nodup_map hlines (List.mem_of_find?_eq_some hfind) hmem hline
    exact ⟨entry, hfind, by rw [hentry]⟩

variable {vocabulary : Vocabulary} {lines : List String} {file : Path}

/-! ### The lines of the tests -/

theorem lineNumber_lt_lineNumber {i j : Nat} (hlt : i < j) (h : j + 1 < UInt32.size) :
    lineNumber i < lineNumber j := by
  rw [UInt32.lt_iff_toNat_lt, toNat_lineNumber, toNat_lineNumber]
  omega

theorem pairwise_decorated (hlines : lines.length < UInt32.size) :
    ((namedTests vocabulary lines).map NamedTest.decorated).Pairwise (· < ·) := by
  rw [List.pairwise_map, namedTests, List.pairwise_filterMap]
  refine (pairwise_lt_codeLines lines).imp_of_mem ?_
  intro code code' hcode hcode' hlt test htest test' htest'
  obtain ⟨-, -, -, hline⟩ := (test?_decoratedAt_eq_some_iff hcode).mp htest
  obtain ⟨-, -, -, hline'⟩ := (test?_decoratedAt_eq_some_iff hcode').mp htest'
  have hlength := (mem_codeLines_iff.mp hcode').1
  rw [hline, hline']
  exact lineNumber_lt_lineNumber hlt (by omega)

theorem names_ofText (vocabulary : Vocabulary) (file : Path) (text : String) :
    (Reading.ofText vocabulary file text).names =
      (namedTests vocabulary (FindingCheck.lines text)).map
        fun test => (test.decorated, test.name) := by
  simp only [Reading.ofText, Reading.ofLayout, blocks_ofText, List.filterMap_map]
  rfl

theorem pairwise_names_ofText {text : String}
    (hlines : (FindingCheck.lines text).length < UInt32.size) :
    ((Reading.ofText vocabulary file text).names.map (·.1)).Pairwise (· < ·) := by
  rw [names_ofText, List.map_map]
  exact pairwise_decorated hlines

theorem NamesTest.lineNumber_code {code directive : Nat} {name : String}
    (h : NamesTest vocabulary lines code directive name) (hlines : lines.length < UInt32.size) :
    lineNumber code = UInt32.ofNat (code + 1) := by
  have hlength := (mem_codeLines_iff.mp h.isCode).1
  exact lineNumber_eq_ofNat (by omega)

theorem NamesTest.lineNumber_directive {code directive : Nat} {name : String}
    (h : NamesTest vocabulary lines code directive name) (hlines : lines.length < UInt32.size) :
    lineNumber directive = UInt32.ofNat (directive + 1) := by
  have hlength := (mem_codeLines_iff.mp h.isCode).1
  have habove := h.isAbove.1
  exact lineNumber_eq_ofNat (by omega)

/-- The name on a line of code is that of the test there. -/
theorem nameOf?_ofText_eq_some_iff {text : String}
    (hlines : (FindingCheck.lines text).length < UInt32.size) {line : UInt32} {name : String} :
    (Reading.ofText vocabulary file text).nameOf? line = some name ↔
      ∃ code directive, line = UInt32.ofNat (code + 1) ∧
        NamesTest vocabulary (FindingCheck.lines text) code directive name := by
  have hnodup : ((Reading.ofText vocabulary file text).names.map (·.1)).Nodup :=
    (pairwise_names_ofText hlines).imp UInt32.ne_of_lt
  rw [Annotations.nameOf?_eq_some_iff hnodup, names_ofText, List.mem_map]
  constructor
  · rintro ⟨test, htest, heq⟩
    obtain ⟨rfl, rfl⟩ := Prod.mk.inj heq
    obtain ⟨code, directive, hnames, -, hline⟩ := mem_namedTests_iff.mp htest
    exact ⟨code, directive, by rw [hline, hnames.lineNumber_code hlines], hnames⟩
  · rintro ⟨code, directive, rfl, hnames⟩
    refine ⟨⟨name, lineNumber directive, lineNumber code⟩,
      mem_namedTests_iff.mpr ⟨code, directive, hnames, rfl, rfl⟩, ?_⟩
    rw [hnames.lineNumber_code hlines]

/-- A line with a name has an expectation. -/
theorem exists_expectation_of_namesTest {text : String}
    (hlines : (FindingCheck.lines text).length < UInt32.size) {code directive : Nat} {name : String}
    (h : NamesTest vocabulary (FindingCheck.lines text) code directive name) :
    ∃ expectation ∈ (Reading.ofText vocabulary file text).expectations,
      expectation.line = UInt32.ofNat (code + 1) := by
  obtain ⟨i, hi, body, fact, hbody, hfact⟩ := h.expects
  have hlength := (mem_codeLines_iff.mp h.isCode).1
  have hexpected := expected_decoratedAt vocabulary file (FindingCheck.lines text)
    (show code + 1 < UInt32.size by omega)
  refine ⟨⟨file, UInt32.ofNat (code + 1), body, fact⟩, ?_, rfl⟩
  rw [expectations_ofText, List.mem_flatMap]
  refine ⟨code, h.isCode, ?_⟩
  rw [hexpected, List.mem_filterMap]
  exact ⟨i, mem_linesAbove_iff.mpr hi, by rw [hbody, Option.bind_some, hfact, Option.map_some]⟩

/-! ### What is reported of names -/

theorem sharedName?_of_faultAt? {index : Nat} {problem : Problem}
    (h : faultAt? vocabulary lines index = some problem) : problem.sharedName? = none := by
  obtain ⟨directive, -, hfault⟩ := Option.bind_eq_some_iff.mp h
  rcases Block.of_fault?_eq_some hfault with
    ⟨-, -, rfl⟩ | ⟨-, ⟨-, rfl⟩ | ⟨-, rfl⟩ | ⟨-, rfl⟩⟩ <;> rfl

/-- What is reported of a name is that several tests bear it, if they do. -/
theorem filter_defects_ofText (vocabulary : Vocabulary) (file : Path) (text name : String) :
    (Reading.ofText vocabulary file text).defects.filter (·.problem.sharedName? == some name) =
      (NamedTest.clash? file (namedTests vocabulary (FindingCheck.lines text)) name).toList := by
  have hlines : (lineDefects vocabulary (FindingCheck.lines text) file).filter
      (·.problem.sharedName? == some name) = [] := by
    refine List.filter_eq_nil_iff.mpr fun defect hdefect => ?_
    rcases mem_lineDefects_iff.mp hdefect with
      ⟨i, body, problem, -, hfault, rfl⟩ | ⟨code, i, bare, -, -, -, -, rfl⟩
    · simp [sharedName?_of_faultAt? hfault]
    · simp [Problem.sharedName?]
  rw [defects_ofText, List.filter_append, hlines, NamedTest.filter_clashes]
  rfl

theorem linesOf_ofText (vocabulary : Vocabulary) (file : Path) (text name : String) :
    (Reading.ofText vocabulary file text).linesOf name =
      ((namedTests vocabulary (FindingCheck.lines text)).filter (·.name == name)).map
        NamedTest.decorated := by
  rw [Annotations.linesOf, names_ofText, List.filter_map, List.map_map]
  rfl

/-- Of a name on several lines one defect is reported. It stands at the directive that names the
first of the tests. -/
theorem filter_defects_of_two_le {text name : String}
    (hlines : (FindingCheck.lines text).length < UInt32.size)
    (hseveral : 2 ≤ ((Reading.ofText vocabulary file text).linesOf name).length) :
    ∃ code directive, NamesTest vocabulary (FindingCheck.lines text) code directive name ∧
      ((Reading.ofText vocabulary file text).linesOf name).head? =
        some (UInt32.ofNat (code + 1)) ∧
      (Reading.ofText vocabulary file text).defects.filter
          (·.problem.sharedName? == some name) =
        [⟨file, UInt32.ofNat (directive + 1), testNameMark ++ name,
          .nameNotUnique name ((Reading.ofText vocabulary file text).linesOf name)⟩] := by
  rw [linesOf_ofText] at hseveral ⊢
  rw [List.length_map] at hseveral
  have hbearers : (namedTests vocabulary (FindingCheck.lines text)).filter (·.name == name) ≠ [] :=
    List.ne_nil_of_length_pos (Nat.lt_of_lt_of_le Nat.zero_lt_two hseveral)
  obtain ⟨first, hfirst⟩ := Option.isSome_iff_exists.mp (List.isSome_head?.mpr hbearers)
  obtain ⟨hmem, hname⟩ := List.mem_filter.mp (List.mem_of_head? hfirst)
  obtain ⟨code, directive, hnames, hdirective, hdecorated⟩ := mem_namedTests_iff.mp hmem
  rw [eq_of_beq hname] at hnames
  rw [hnames.lineNumber_directive hlines] at hdirective
  rw [hnames.lineNumber_code hlines] at hdecorated
  refine ⟨code, directive, hnames, by rw [List.head?_map, hfirst, Option.map_some, hdecorated], ?_⟩
  rw [filter_defects_ofText, NamedTest.clash?_eq_some_iff.mpr ⟨hseveral, first, hfirst, rfl⟩,
    hdirective]
  rfl

theorem filter_defects_of_lt_two {text name : String}
    (hfew : ((Reading.ofText vocabulary file text).linesOf name).length < 2) :
    (Reading.ofText vocabulary file text).defects.filter (·.problem.sharedName? == some name) =
      [] := by
  rw [linesOf_ofText, List.length_map] at hfew
  rw [filter_defects_ofText, NamedTest.clash?_eq_none_iff.mpr (Nat.le_of_lt_succ hfew)]
  rfl

/-- The names of a text that a reader has read, and what is reported of them. Every line with a
name has an expectation. A line has the name that the first directive above it gives which can name
a test, if no expectation stands in front of that directive and some stands behind; no line has two.
A name on several lines is one defect, with all these lines in ascending order, at the directive
that names the first of them; a name on one line is none. So in a text that is accepted, no two
lines have the same name. -/
theorem names_read (reader : Reader) (file : Path) {text : String}
    (hlines : (FindingCheck.lines text).length < UInt32.size) :
    ((reader.read file text).1.names.map (·.1)).Pairwise (· < ·) ∧
    (∀ entry ∈ (reader.read file text).1.names,
      ∃ expectation ∈ (reader.read file text).1.expectations, expectation.line = entry.1) ∧
    (∀ line name, (reader.read file text).1.nameOf? line = some name ↔
      ∃ code directive, line = UInt32.ofNat (code + 1) ∧
        NamesTest reader.vocabulary (FindingCheck.lines text) code directive name) ∧
    (∃ found, (reader.read file text).2.pending = reader.pending ++ found ∧
      ∀ name,
        (((reader.read file text).1.linesOf name).length < 2 →
          found.filter (·.problem.sharedName? == some name) = []) ∧
        (2 ≤ ((reader.read file text).1.linesOf name).length →
          ∃ code directive,
            NamesTest reader.vocabulary (FindingCheck.lines text) code directive name ∧
            ((reader.read file text).1.linesOf name).head? = some (UInt32.ofNat (code + 1)) ∧
            found.filter (·.problem.sharedName? == some name) =
              [⟨file, UInt32.ofNat (directive + 1), testNameMark ++ name,
                .nameNotUnique name ((reader.read file text).1.linesOf name)⟩])) ∧
    ∀ annotations, readAnnotations reader.vocabulary file text = .ok annotations →
      ∀ line line' name, annotations.nameOf? line = some name →
        annotations.nameOf? line' = some name → line = line' := by
  have hnames {line : UInt32} {name : String} :
      (reader.read file text).1.nameOf? line = some name ↔ _ := nameOf?_ofText_eq_some_iff hlines
  have hpairwise : ((reader.read file text).1.names.map (·.1)).Pairwise (· < ·) :=
    pairwise_names_ofText hlines
  refine ⟨hpairwise, ?_, fun line name => hnames, ?_, ?_⟩
  · rintro ⟨line, name⟩ hentry
    have hname : (reader.read file text).1.nameOf? line = some name :=
      (Annotations.nameOf?_eq_some_iff (hpairwise.imp UInt32.ne_of_lt)).mpr hentry
    obtain ⟨code, directive, rfl, htest⟩ := hnames.mp hname
    exact exists_expectation_of_namesTest hlines htest
  · refine ⟨(Reading.ofText reader.vocabulary file text).defects, rfl, fun name => ⟨?_, ?_⟩⟩
    · exact fun hfew => filter_defects_of_lt_two hfew
    · exact fun hseveral => filter_defects_of_two_le hlines hseveral
  · intro annotations hread line line' name hline hline'
    obtain ⟨hdefects, rfl⟩ := readAnnotations_eq_ok_iff.mp hread
    obtain ⟨code, directive, rfl, htest⟩ := hnames.mp hline
    obtain ⟨code', directive', rfl, htest'⟩ := hnames.mp hline'
    rw [defects_ofText, List.append_eq_nil_iff, NamedTest.clashes_eq_nil_iff] at hdefects
    rw [nodup_names_iff.mp hdefects.2 _ _ _ _ _ htest htest']

/-- A text in which two tests bear one name, spelled with a blank the second time. -/
def sharedText : String :=
  "// test:name:a\n// test:sink-type:T:p\nfoo();\n// test:name: a\n// test:sink-type:T:p\nbar();"

theorem lines_sharedText :
    FindingCheck.lines sharedText = ["// test:name:a", "// test:sink-type:T:p", "foo();",
      "// test:name: a", "// test:sink-type:T:p", "bar();"] := by
  rw [FindingCheck.lines, sharedText, String.toList_ofList]
  rfl

theorem names_read_sharedText :
    (FindingCheck.lines sharedText).length < UInt32.size ∧
      (usedReader.read ⟨"A.java"⟩ sharedText).1.linesOf "a" = [3, 6] ∧
      ∃ found, (usedReader.read ⟨"A.java"⟩ sharedText).2.pending = usedReader.pending ++ found ∧
        ∃ code directive,
          NamesTest .standard (FindingCheck.lines sharedText) code directive "a" ∧
          some 3 = some (UInt32.ofNat (code + 1)) ∧
          found.filter (·.problem.sharedName? == some "a") =
            [⟨⟨"A.java"⟩, UInt32.ofNat (directive + 1), testNameMark ++ "a",
              .nameNotUnique "a" [3, 6]⟩] := by
  have hlines : (FindingCheck.lines sharedText).length < UInt32.size := by
    rw [lines_sharedText]
    decide
  have hbearing : (usedReader.read ⟨"A.java"⟩ sharedText).1.linesOf "a" = [3, 6] := by
    rw [Reader.fst_read, linesOf_ofText, lines_sharedText]
    decide +kernel
  obtain ⟨-, -, -, ⟨found, hpending, hfound⟩, -⟩ := names_read usedReader ⟨"A.java"⟩ hlines
  refine ⟨hlines, hbearing, found, hpending, ?_⟩
  have hshared := (hfound "a").2
  rw [hbearing] at hshared
  exact hshared (Nat.le_refl 2)

end FindingCheck
