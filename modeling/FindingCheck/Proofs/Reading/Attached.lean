import FindingCheck.Proofs.Reading.BlockAbove

/-!
# The expectations of the lines of code

A line of code has the expectations that the directives directly above it declare. This holds for
every text, well formed or not: a directive that names a test or that cannot be understood changes
nothing about the others, and directives behind the last line of code have no line to be for.

## Main definitions

* `decoratedAt` — what the directives above a line of code say of it

## Main statements

* `blocks_ofText` — what the runs of a text say, line of code after line of code
* `expectations_read` — the expectations of a text
-/

namespace FindingCheck

/-- What the directives directly above a line of code say of it. -/
def decoratedAt (vocabulary : Vocabulary) (lines : List String) (code : Nat) : DecoratedBlock :=
  { blockAbove vocabulary lines code with decorated := lineNumber code }

theorem blocks_ofText (vocabulary : Vocabulary) (text : String) :
    (Layout.ofText text).runs.map (DecoratedBlock.ofRun vocabulary) =
      (codeLines (lines text)).map (decoratedAt vocabulary (lines text)) := by
  rw [Layout.ofText, Layout.ofLines_eq, List.map_map]
  rfl

theorem lineNumber_eq_ofNat {index : Nat} (h : index + 1 < UInt32.size) :
    lineNumber index = UInt32.ofNat (index + 1) := by
  rw [lineNumber, Nat.min_eq_left (Nat.le_sub_one_of_lt h)]

theorem expected_decoratedAt (vocabulary : Vocabulary) (file : Path) (lines : List String)
    {code : Nat} (h : code + 1 < UInt32.size) :
    (decoratedAt vocabulary lines code).expected file =
      (linesAbove lines code).filterMap fun directive =>
        (bodyAt? lines directive).bind fun body =>
          (vocabulary.expected? body).map fun fact =>
            ⟨file, UInt32.ofNat (code + 1), body, fact⟩ := by
  have hexpectations := expectations_blockAbove vocabulary lines code
  rw [DecoratedBlock.expected, decoratedAt, hexpectations, List.map_filterMap,
    lineNumber_eq_ofNat h]
  simp only [Option.map_bind, Function.comp_def, Option.map_map]

theorem expectations_ofText (vocabulary : Vocabulary) (file : Path) (text : String) :
    (Reading.ofText vocabulary file text).expectations =
      (codeLines (lines text)).flatMap fun code =>
        (decoratedAt vocabulary (lines text) code).expected file := by
  simp only [Reading.ofText, Reading.ofLayout, blocks_ofText, List.flatMap_map]

theorem Reader.fst_read (reader : Reader) (file : Path) (text : String) :
    (reader.read file text).1 = (Reading.ofText reader.vocabulary file text).toAnnotations :=
  rfl

/-- The expectations of a text, whatever was read before it and whether or not it has defects:
for each line of code in order, for each directive of the run directly above it in order, the fact
that the directive declares, expected on that line of code. -/
theorem expectations_read (reader : Reader) (file : Path) {text : String}
    (hlines : (lines text).length < UInt32.size) :
    (reader.read file text).1.expectations =
      (codeLines (lines text)).flatMap fun code =>
        (linesAbove (lines text) code).filterMap fun directive =>
          (bodyAt? (lines text) directive).bind fun body =>
            (reader.vocabulary.expected? body).map fun fact =>
              ⟨file, UInt32.ofNat (code + 1), body, fact⟩ := by
  rw [Reader.fst_read, expectations_ofText]
  refine List.flatMap_congr fun code hcode => ?_
  have hcode := (mem_codeLines_iff.mp hcode).1
  exact expected_decoratedAt reader.vocabulary file (lines text) (by omega)

/-- A text with a run in which a name comes too late and something cannot be understood, with an
empty line, and with a directive behind the last line of code. -/
def mixedText : String :=
  "// test:sink-type:T:p\n // test:name:a\n// ?\n// test:sink-type:T:q\nf\n\n// test:sink-type:T:p"

theorem lines_mixedText :
    lines mixedText = ["// test:sink-type:T:p", " // test:name:a", "// ?",
      "// test:sink-type:T:q", "f", "", "// test:sink-type:T:p"] := by
  rw [lines, mixedText, String.toList_ofList]
  rfl

/-- A reader that has met a defect before. -/
def usedReader : Reader where
  vocabulary := .standard
  pending := [⟨⟨"B.java"⟩, 1, "no directive", .unrecognized⟩]

theorem expectations_read_mixedText :
    (lines mixedText).length < UInt32.size ∧
      ((usedReader.read ⟨"A.java"⟩ mixedText).1.expectations.map
        fun expectation => (expectation.line, expectation.text)) =
        [(5, "test:sink-type:T:p"), (5, "test:sink-type:T:q")] := by
  have hlines : (lines mixedText).length < UInt32.size := by
    rw [lines_mixedText]
    decide
  refine ⟨hlines, ?_⟩
  rw [expectations_read usedReader ⟨"A.java"⟩ hlines, lines_mixedText]
  decide +kernel

end FindingCheck
