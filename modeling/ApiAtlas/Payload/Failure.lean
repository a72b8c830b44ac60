/-!
# Documents without a value

**Definitions.** A document may be unreadable, which is a reason to refuse it.  It may also be
written well and yet ask for a value that cannot be made; a `Defect` says why.  Decimal numbers
have a greatest length, in reading as in writing.
-/

namespace ApiAtlas

/-- Why a value that a document asks for cannot be made. -/
inductive Defect
  /-- There is no such day, number or character. -/
  | noSuchValue
  /-- The number of a character does not fit into 31 bits. -/
  | oversizedCode
  /-- A word is no truth value. -/
  | unknownWord
  /-- A number has no digits at all. -/
  | emptyNumber
  /-- A text is not written like a time. -/
  | notTime
  /-- A collection stands where a time should be. -/
  | notText
deriving DecidableEq, Repr, Inhabited

namespace Payload

/-- Why a document has no value. -/
inductive Failure
  /-- The document cannot be read. -/
  | unreadable
  /-- The document asks for a value that cannot be made. -/
  | defective (d : Defect)
deriving DecidableEq, Repr, Inhabited

/-- The failure of a value that does not exist. -/
def Failure.noSuchValue : Failure :=
  .defective .noSuchValue

/-- The greatest number of decimal digits of an integer. -/
def maxDigits : Nat :=
  4300

/-- What was found, or the failure to read anything. -/
def orUnreadable {α : Type} (found : Option α) : Except Failure α :=
  found.elim (.error .unreadable) .ok

end Payload

end ApiAtlas
