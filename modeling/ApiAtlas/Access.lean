import ApiAtlas.Text.Blank
import ApiAtlas.Text.Case

/-!
# Access levels

**Input.** The access label of a record, of the configuration or of the command line.

**Definitions.** The five levels of visibility, ordered from `priv` to `openAll`, and the reading
of a label: blanks and letter case do not matter, and the label may be qualified.
-/

namespace ApiAtlas

/-- How far an entity is visible. -/
inductive Access
  | priv
  | filePriv
  | internal
  | pub
  | openAll
deriving DecidableEq, Repr, Inhabited

namespace Access

section Defs

/-- All levels, narrowest first. -/
def all : List Access :=
  [priv, filePriv, internal, pub, openAll]

/-- The place of a level in the order, zero for the narrowest. -/
def rank : Access → Nat
  | priv => 0
  | filePriv => 1
  | internal => 2
  | pub => 3
  | openAll => 4

instance : LE Access := ⟨fun a b => a.rank ≤ b.rank⟩

instance (a b : Access) : Decidable (a ≤ b) :=
  inferInstanceAs (Decidable (a.rank ≤ b.rank))

/-- The name of a level in lower case. -/
def label : Access → Text
  | priv => "private".toList
  | filePriv => "fileprivate".toList
  | internal => "internal".toList
  | pub => "public".toList
  | openAll => "open".toList

/-- The name of a level in upper case. -/
def capitals : Access → Text
  | priv => "PRIVATE".toList
  | filePriv => "FILEPRIVATE".toList
  | internal => "INTERNAL".toList
  | pub => "PUBLIC".toList
  | openAll => "OPEN".toList

/-- What stands before the name in a qualified label. -/
def qualifier : Text :=
  "source.lang.swift.accessibility.".toList

/-- The level that a label names, bare or qualified.  The name is compared in upper case, so
every spelling with the same capitals is accepted. -/
def parse? (label : Text) : Option Access :=
  let name := Text.cut qualifier label.strip.lower
  all.find? fun level => level.capitals == name.upper

end Defs

section Laws

theorem le_trans {a b c : Access} (hab : a ≤ b) (hbc : b ≤ c) : a ≤ c :=
  Nat.le_trans hab hbc

@[simp] theorem priv_le (a : Access) : priv ≤ a :=
  Nat.zero_le _

@[simp] theorem mem_all (a : Access) : a ∈ all := by
  cases a <;> decide

end Laws

end Access

end ApiAtlas
