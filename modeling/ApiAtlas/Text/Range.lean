import ApiAtlas.Text.Basic

/-!
# Tables of code points

**Definitions.** A class of characters beyond ASCII is given by the closed ranges of its code
points, and a change of case by runs: from `first` to `last` every `step`-th code point moves to
the one at the same distance from `image`.  Some characters change into several, which a second
table lists one by one.
-/

namespace ApiAtlas

namespace Text

/-- Closed ranges of code points, in ascending order. -/
abbrev Ranges := List (Nat × Nat)

/-- Runs `(first, last, step, image)` of code points that move together. -/
abbrev Runs := List (Nat × Nat × Nat × Nat)

/-- Code points that become several. -/
abbrev Expansions := List (Nat × List Nat)

/-- Whether a code point lies in one of the ranges. -/
def Ranges.has (rs : Ranges) (n : Nat) : Bool :=
  rs.any fun (first, last) => first ≤ n && n ≤ last

/-- Where the first run that holds the code point moves it. -/
def Runs.image? (rs : Runs) (n : Nat) : Option Nat :=
  (rs.find? fun (first, last, step, _) => first ≤ n && n ≤ last && (n - first) % step == 0).map
    fun (first, _, _, image) => image + (n - first)

/-- The characters that a code point becomes: its expansion, its image, or itself. -/
def mapped (runs : Runs) (expansions : Expansions) (c : Char) : Text :=
  match expansions.lookup c.toNat with
  | some ns => ns.map Char.ofNat
  | none => [((runs.image? c.toNat).map Char.ofNat).getD c]

end Text

end ApiAtlas
