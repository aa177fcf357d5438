import FindingCheck.Diagnostic
import FindingCheck.Json.Document

/-!
# Dumps of diagnostics

Diagnostics are recorded as a JSON array. A diagnostic is an object with the members `file`,
`line`, `key` and `kind`, and if need be `message` and `args`; other members are passed over. It
may also be an array of the same values in this order.

## Main definitions

* `Diagnostic.ofJson?` — the diagnostic that a value records
* `DumpProblem`, `Diagnostic.parseDump` — the diagnostics that a text records
-/

namespace FindingCheck

/-- The severity that a value records: its name, or an object whose one member has this name and
no value. -/
def Severity.ofJson? : JsonValue → Option Severity
  | .string (some name) => ofName? name
  | .object [(some name, .null)] => ofName? name
  | _ => none

/-- The line that a value records: a natural number of at most 32 bits. -/
def lineOfJson? (value : JsonValue) : Option UInt32 :=
  value.natural?.bind fun number => if number < UInt32.size then some (UInt32.ofNat number) else none

/-- The texts that an array records. -/
def textsOfJson? (value : JsonValue) : Option (List String) :=
  value.items?.bind fun items => items.mapM JsonValue.text?

namespace Diagnostic

/-- The diagnostic with the given parts. Message and arguments may be missing, but not be of
another kind. -/
def ofParts? (file line key kind : JsonValue) (message? arguments? : Option JsonValue) :
    Option Diagnostic := do
  return {
    file := ⟨← file.text?⟩
    line := ← lineOfJson? line
    key := ← key.text?
    severity := ← Severity.ofJson? kind
    message := ← message?.elim (some "") JsonValue.text?
    arguments := ← arguments?.elim (some []) textsOfJson? }

/-- The diagnostic that an array records. -/
def ofItems? : List JsonValue → Option Diagnostic
  | [file, line, key, kind] => ofParts? file line key kind none none
  | [file, line, key, kind, message] => ofParts? file line key kind (some message) none
  | [file, line, key, kind, message, arguments] =>
    ofParts? file line key kind (some message) (some arguments)
  | _ => none

/-- The names of the members that count. -/
def memberNames : List String :=
  ["file", "line", "key", "kind", "message", "args"]

/-- The value of a member. -/
def member? (members : List (Option String × JsonValue)) (name : String) : Option JsonValue :=
  (members.find? (·.1 == some name)).map (·.2)

/-- Whether the names of members are texts and none of those that count is repeated. -/
def namesAreSound (members : List (Option String × JsonValue)) : Bool :=
  members.all (·.1.isSome) &&
    memberNames.all fun name => members.countP (·.1 == some name) ≤ 1

/-- The diagnostic that an object records. -/
def ofMembers? (members : List (Option String × JsonValue)) : Option Diagnostic := do
  guard (namesAreSound members)
  ofParts? (← member? members "file") (← member? members "line") (← member? members "key")
    (← member? members "kind") (member? members "message") (member? members "args")

/-- The diagnostic that a value records. -/
def ofJson? : JsonValue → Option Diagnostic
  | .object members => ofMembers? members
  | .array items => ofItems? items
  | _ => none

end Diagnostic

/-- Why a text is no dump. -/
inductive DumpProblem where
  /-- The text is no JSON text. -/
  | notJson
  /-- The value is no array. -/
  | notArray
  /-- An item of the array, counted from zero, is no diagnostic. -/
  | notDiagnostic (index : Nat)
deriving DecidableEq, Repr

namespace DumpProblem

/-- The problem in words. -/
def message : DumpProblem → String
  | notJson => "not a JSON text"
  | notArray => "not an array"
  | notDiagnostic index => "item " ++ toString index ++ " is not a recorded fact"

end DumpProblem

namespace Diagnostic

/-- The diagnostics that a text records. -/
def parseDump (text : String) : Except DumpProblem (List Diagnostic) :=
  match JsonValue.parse? text with
  | none => .error .notJson
  | some (.array items) =>
    items.zipIdx.mapM fun item => (ofJson? item.1).elim (.error (.notDiagnostic item.2)) .ok
  | some _ => .error .notArray

end Diagnostic

end FindingCheck
