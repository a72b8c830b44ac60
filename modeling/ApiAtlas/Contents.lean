import ApiAtlas.Entity
import ApiAtlas.Markup.Build
import ApiAtlas.Text.Case
import ApiAtlas.Text.Order

/-!
# The table of contents

**Input.** Entities, the least access level that is listed, and where the pages are.

**Algorithm.** The entities are sorted by the label of their kind, without changing the order
within a kind, and numbered.  The listing goes through the numbered entities that are visible and
starts a group whenever the heading changes; the numbers refer to the links at the end.

**Definitions.** `byKind` is the order, `entries` the numbered visible entities, and `markdown` the
listing.

**Results.** Sorting keeps every entity (`byKind_perm`).
-/

namespace ApiAtlas

namespace Contents

open Markup

section Defs

/-- Entities by the label of their kind; those of one kind stay in order. -/
def byKind (es : List Entity) : List Entity :=
  es.mergeSort fun a b => a.kind.label.atMost b.kind.label

/-- The visible entities in the order of the listing, with their numbers; hidden entities count. -/
def entries (minimum : Access) (es : List Entity) : List (Entity × Nat) :=
  (byKind es).zipIdx.filter fun (e, _) => minimum ≤ e.access

/-- The heading of the group of an entity. -/
def groupTitle (e : Entity) : Text :=
  e.kind.label.title

/-- The line of an entity. -/
def line (entry : Entity × Nat) : Node :=
  bullet ('[' :: entry.1.title ++ "][".toList ++ Text.ofNat entry.2 ++ [']']) [] 0

/-- The lines of entities, with a heading whenever the group changes; `current` is the heading
that stands above. -/
def lines (current : Text) : List (Entity × Nat) → List Node
  | [] => []
  | entry :: rest =>
    let title := groupTitle entry.1
    (if title = current then [line entry] else [heading 4 title, line entry]) ++ lines title rest

/-- The link of an entity under its number. -/
def reference (layout : Layout) (format : Format) (entry : Entity × Nat) : Text :=
  '[' :: Text.ofNat entry.2 ++ "]:".toList ++ entry.1.link layout format

/-- The links of the listing in one paragraph; nothing when there are none. -/
def references (layout : Layout) (format : Format) (listed : List (Entity × Nat)) : List Node :=
  if listed.isEmpty then []
  else [paragraph (Text.join ['\n'] (listed.map (reference layout format))) 0]

/-- The table of contents in Markdown; `format` is the one of the pages. -/
def markdown (layout : Layout) (format : Format) (minimum : Access) (es : List Entity) : Text :=
  let listed := entries minimum es
  finalize (document (lines [] listed ++ references layout format listed))

end Defs

section Laws

/-- Sorting keeps every entity. -/
theorem byKind_perm (es : List Entity) : (byKind es).Perm es :=
  List.mergeSort_perm _ _

end Laws

end Contents

end ApiAtlas
