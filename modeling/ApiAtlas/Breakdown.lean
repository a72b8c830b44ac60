import ApiAtlas.Files
import ApiAtlas.Payload.Failure

/-!
# Runs that break down

**Definitions.** Most troubles of a run are reported and the run goes on, or ends with a message.  A
`Breakdown` is a trouble that nobody on the way takes care of, so that the run ends without a
report of its own.
-/

namespace ApiAtlas

/-- What ends a run without a report of its own. -/
inductive Breakdown
  /-- A file cannot be used. -/
  | file (e : FileError)
  /-- A payload or a configuration asks for a value that cannot be made. -/
  | defective (d : Defect)
  /-- Merging does not come to an end. -/
  | endlessMerge
deriving DecidableEq, Repr, Inhabited

end ApiAtlas
