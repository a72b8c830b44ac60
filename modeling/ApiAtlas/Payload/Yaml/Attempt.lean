import ApiAtlas.Payload.Failure
import ApiAtlas.Payload.Value

/-!
# Attempts

**Input.** Parts of a document that are made in rounds: what stands in a collection is made one round
after the collection.

**Definitions.** An `Attempt` is a result, or a failure with the number of rounds before it.  Of
several failures the one in the earliest round counts, and in a round the first one.
-/

namespace ApiAtlas

namespace Yaml

open Payload (Failure)

/-- A failure and the number of rounds before it. -/
structure Mishap where
  /-- The number of rounds before the failure. -/
  rounds : Nat
  /-- What failed. -/
  failure : Failure

/-- A result, or the first failure. -/
abbrev Attempt (α : Type) := Except Mishap α

namespace Attempt

variable {α β : Type}

/-- A result that is known at once. -/
def now (a : Except Failure α) : Attempt α :=
  a.mapError fun f => ⟨0, f⟩

/-- Failure at once, for a document that cannot be read. -/
def refuse : Attempt α :=
  .error ⟨0, .unreadable⟩

/-- The result one round later. -/
def later (a : Attempt α) : Attempt α :=
  a.mapError fun m => { m with rounds := m.rounds + 1 }

/-- Both results, or the failure in the earlier round; in one round the first failure. -/
def both (a : Attempt α) (b : Attempt β) : Attempt (α × β) :=
  match a, b with
  | .ok a, .ok b => .ok (a, b)
  | .error m, .ok _ => .error m
  | .ok _, .error n => .error n
  | .error m, .error n => .error (if n.rounds < m.rounds then n else m)

/-- All results, or the first failure. -/
def all : List (Attempt α) → Attempt (List α)
  | [] => .ok []
  | a :: as => (both a (all as)).map fun (a, as) => a :: as

end Attempt

end Yaml

end ApiAtlas
