import ApiAtlas.Payload.Yaml.Attempt

/-!
# Entries for other mappings

**Input.** What a merge key of a mapping names: a mapping, or several, which may have merge keys
themselves and may be the mapping in which they are named.

**Definitions.** An `Offer` is what a node has for a mapping that it is merged into.  `Offer.contents`
are the entries that arrive.  Those of the first of several mappings stand last, so that they win.  A
mapping that is found inside itself gives what it consists of at that moment: its own entries and
what its later merge keys bring in.
-/

namespace ApiAtlas

namespace Yaml

/-- Entries that are being made. -/
abbrev Contents := List (Attempt (Value × Value))

/-- The mappings whose merge keys are being followed, by their places, with what they consist of
until that is done. -/
abbrev Unfinished := List (Nat × Contents)

/-- What a node offers to a mapping that it is merged into. -/
inductive Offer
  | nothing
  /-- The entries of a mapping, and what its merge keys name. -/
  | mapping (place : Nat) (own : Contents) (merges : List Offer)
  /-- Several mappings. -/
  | several (items : List Offer)
  /-- A collection that is named inside itself, by its place. -/
  | copied (place : Nat) (copy : Offer)

namespace Offer

section Defs

mutual

/-- The entries that an offer brings in. -/
def contents (around : Unfinished) : Offer → Contents
  | nothing => []
  | mapping place own merges =>
    match around.lookup place with
    | some now => now
    | none => brought around place own merges ++ own
  | several items => allContents around items
  | copied place copy =>
    match around.lookup place with
    | some now => now
    | none => copy.contents around

/-- The entries that the merge keys of a mapping bring in.  While one of them is followed the mapping
consists of its own entries and of what the later ones bring in. -/
def brought (around : Unfinished) (place : Nat) (own : Contents) : List Offer → Contents
  | [] => []
  | m :: ms =>
    let later := brought around place own ms
    m.contents ((place, later ++ own) :: around) ++ later

/-- The entries of several offers, those of the first one last. -/
def allContents (around : Unfinished) : List Offer → Contents
  | [] => []
  | m :: ms => allContents around ms ++ m.contents around

end

end Defs

end Offer

end Yaml

end ApiAtlas
