import ApiAtlas.Text.Basic

/-!
# Checked data

**Input.** A payload value that should have a certain shape.

**Definitions.** Checking a value yields what it means or the list of all its faults.  A fault has
a place, the names and positions that lead to it, and a cause.  Two checks side by side report
the faults of both, in order.
-/

namespace ApiAtlas

/-- Why a value is refused. -/
inductive Cause
  | missing
  | notText
  | brokenText
  | notList
  | notObject
  | notBool
  | unreadableBool
  | notChoice
  | refused
  | notPath
  /-- An integer is too large. -/
  | oversized
  /-- A record contains itself. -/
  | endless
deriving DecidableEq, Repr, Inhabited

/-- A refused value. -/
structure Fault where
  /-- The names and positions that lead to the value. -/
  place : List Text
  /-- Why the value is refused. -/
  cause : Cause
deriving DecidableEq, Repr, Inhabited

/-- What a value means, or all its faults. -/
inductive Checked (α : Type) where
  | ok (a : α)
  | faulty (faults : List Fault)
deriving Inhabited

namespace Checked

section Defs

variable {α β : Type}

/-- Refusal at the place itself. -/
def refuse (cause : Cause) : Checked α :=
  .faulty [⟨[], cause⟩]

/-- The faults of a check. -/
def faults : Checked α → List Fault
  | ok _ => []
  | faulty fs => fs

/-- A check whose result is changed. -/
def map (f : α → β) : Checked α → Checked β
  | ok a => ok (f a)
  | faulty fs => faulty fs

/-- Two checks side by side. -/
def ap (f : Checked (α → β)) (a : Checked α) : Checked β :=
  match f, a with
  | ok f, ok a => ok (f a)
  | f, a => faulty (f.faults ++ a.faults)

instance : Applicative Checked where
  pure := ok
  map f := map f
  seq f a := ap f (a ())

/-- A check one name or position further down. -/
def under (step : Text) : Checked α → Checked α
  | ok a => ok a
  | faulty fs => faulty (fs.map fun f => { f with place := step :: f.place })

end Defs

end Checked

end ApiAtlas
