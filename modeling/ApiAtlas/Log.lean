import ApiAtlas.Text.Basic

/-!
# Messages about a run

**Definitions.** Ingestion, merging and generation report what they do in messages of a level.
The verbosity of a run sets the least level that is shown: errors only, or also changes, checks,
or everything.  A verbosity that does not exist shows errors only.
-/

namespace ApiAtlas

namespace Log

/-- The importance of a message. -/
inductive Level
  | debug
  | checks
  | info
  | changes
  | warning
  | error
  | critical
deriving DecidableEq, Repr, Inhabited

/-- A message with its level. -/
structure Message where
  /-- How important the message is. -/
  level : Level
  /-- What the message says. -/
  text : Text
deriving DecidableEq, Repr, Inhabited

section Defs

/-- The place of a level in the order of importance. -/
def Level.weight : Level → Nat
  | debug => 10
  | checks => 15
  | info => 20
  | changes => 25
  | warning => 30
  | error => 40
  | critical => 50

/-- The least level that a verbosity shows. -/
def threshold (verbosity : Int) : Level :=
  if verbosity = 1 then .changes
  else if verbosity = 2 then .checks
  else if verbosity = 3 then .debug
  else .error

/-- The texts of the messages that a verbosity shows. -/
def shown (verbosity : Int) (messages : List Message) : List Text :=
  (messages.filter fun m => (threshold verbosity).weight ≤ m.level.weight).map Message.text

end Defs

end Log

end ApiAtlas
