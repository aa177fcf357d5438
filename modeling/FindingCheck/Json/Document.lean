import FindingCheck.Json.Token

/-!
# JSON documents

A JSON document is one value. Its tokens are taken in order, with the brackets that are open on a
stack; what may come next depends on the token before and the innermost open bracket.

## Main definitions

* `OpenBracket`, `Awaited`, `Builder` — what has been read and what may come next
* `JsonValue.ofTokens?` — the value that tokens write
* `JsonValue.parse?` — the value that a text writes
-/

namespace FindingCheck

/-- A bracket that has been opened and not closed. -/
inductive OpenBracket where
  /-- An array, its last item first. -/
  | array (items : List JsonValue)
  /-- An object, its last member first, and the name of the member being read. -/
  | object (members : List (Option String × JsonValue)) (name : Option String)

/-- What may come next. -/
inductive Awaited where
  /-- A value. -/
  | value
  /-- The first item of an array, or its end. -/
  | firstItem
  /-- The first name of an object, or its end. -/
  | firstName
  /-- A name. -/
  | name
  /-- The colon behind a name. -/
  | colon
  /-- A comma or the end of the bracket. -/
  | more
  /-- Nothing. -/
  | nothing

/-- What the tokens up to now have built. -/
structure Builder where
  /-- The open brackets, the innermost first. -/
  stack : List OpenBracket := []
  /-- What may come next. -/
  awaited : Awaited := .value
  /-- The value of the document when it is complete. -/
  result? : Option JsonValue := none

namespace Builder

/-- Puts a complete value into the innermost bracket. Outside all brackets it is the document. -/
def complete (value : JsonValue) : List OpenBracket → Builder
  | [] => { awaited := .nothing, result? := some value }
  | .array items :: stack => { stack := .array (value :: items) :: stack, awaited := .more }
  | .object members name :: stack =>
    { stack := .object ((name, value) :: members) none :: stack, awaited := .more }

/-- Takes a token where a value may stand. -/
def takeValue (stack : List OpenBracket) : Token → Option Builder
  | .scalar value => some (complete value stack)
  | .openArray => some { stack := .array [] :: stack, awaited := .firstItem }
  | .openObject => some { stack := .object [] none :: stack, awaited := .firstName }
  | _ => none

/-- Closes the innermost bracket, if it is of the kind of the token. -/
def close (stack : List OpenBracket) (token : Token) : Option Builder :=
  match stack, token with
  | .array items :: stack, .closeArray => some (complete (.array items.reverse) stack)
  | .object members _ :: stack, .closeObject => some (complete (.object members.reverse) stack)
  | _, _ => none

/-- Takes the name of a member. -/
def takeName (stack : List OpenBracket) (token : Token) : Option Builder :=
  match stack, token with
  | .object members _ :: stack, .scalar (.string name) =>
    some { stack := .object members name :: stack, awaited := .colon }
  | _, _ => none

/-- Takes a comma. -/
def takeComma (stack : List OpenBracket) (token : Token) : Option Builder :=
  match stack, token with
  | .array _ :: _, .comma => some { stack, awaited := .value }
  | .object _ _ :: _, .comma => some { stack, awaited := .name }
  | _, _ => none

/-- Takes a colon. -/
def takeColon (stack : List OpenBracket) : Token → Option Builder
  | .colon => some { stack, awaited := .value }
  | _ => none

/-- Takes one token. -/
def push (builder : Builder) (token : Token) : Option Builder :=
  match builder.awaited with
  | .value => takeValue builder.stack token
  | .firstItem => (takeValue builder.stack token).or (close builder.stack token)
  | .firstName => (takeName builder.stack token).or (close builder.stack token)
  | .name => takeName builder.stack token
  | .colon => takeColon builder.stack token
  | .more => (takeComma builder.stack token).or (close builder.stack token)
  | .nothing => none

end Builder

namespace JsonValue

/-- The value that tokens write. -/
def ofTokens? (tokens : List Token) : Option JsonValue :=
  (tokens.foldlM Builder.push {}).bind (·.result?)

/-- The value that a text writes, if it is a JSON text. -/
def parse? (text : String) : Option JsonValue :=
  (tokens? text).bind ofTokens?

end JsonValue

end FindingCheck
