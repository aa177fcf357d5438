/-!
# Events

What the program does along the way can be followed as a list of events. They are values: each
stage says which events its result stands for.

## Main definitions

* `Event` — a message with named fields
* `Logged` — a result or a failure together with the events up to it
-/

namespace FindingCheck

/-- How important an event is. -/
inductive Level where
  /-- Of interest when looking for a fault. -/
  | debug
  /-- Of interest to every user. -/
  | info
deriving DecidableEq, Repr

/-- Something that happened. -/
structure Event where
  /-- The importance. -/
  level : Level
  /-- What happened. -/
  message : String
  /-- The particulars, each a name and a text. -/
  fields : List (String × String)
deriving DecidableEq, Repr

/-- A result or a failure, with what happened up to it. -/
structure Logged (ε α : Type) where
  /-- The result, or why there is none. -/
  result : Except ε α
  /-- The events in order. -/
  events : List Event := []

namespace Logged

variable {ε α β : Type}

/-- Goes on after a success. The events of a failed part are kept, and nothing follows them. -/
def andThen (part : Logged ε α) (next : α → Logged ε β) : Logged ε β :=
  match part.result with
  | .ok value => { result := (next value).result, events := part.events ++ (next value).events }
  | .error failure => { result := .error failure, events := part.events }

instance : Monad (Logged ε) where
  pure value := { result := .ok value }
  bind := andThen

/-- A result without events. -/
def ofExcept (result : Except ε α) : Logged ε α :=
  { result }

/-- Records events. -/
def tell (events : List Event) : Logged ε Unit :=
  { result := .ok (), events }

theorem result_bind (part : Logged ε α) (next : α → Logged ε β) :
    (part >>= next).result = part.result.bind fun value => (next value).result := by
  show (andThen part next).result = _
  unfold andThen
  cases part.result <;> rfl

end Logged

end FindingCheck
