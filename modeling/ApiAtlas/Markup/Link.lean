import ApiAtlas.Payload.Encoding
import ApiAtlas.Text.Distinct

/-!
# Link targets

**Input.** The link targets of a document, in the order in which they are met.

**Definitions.** A target is referred to by a number, the cyclic redundancy check of its bytes.  A
`Registry` gathers targets while a document is built and holds none twice; registering a target
again does not move it.

**Exclusion.** Targets are texts without halves of characters (`Text.isHalf`).  A half has no bytes,
so a target with one has no number, and finishing its document breaks down.  `reference` is total
all the same: it takes the three bytes that the number of the half would have.  The private
characters U+10D800 to U+10DFFF stand for halves, so they are excluded with them.

**Results.** Registering adds a target at the end, unless it is there (`links_register`).
-/

namespace ApiAtlas

namespace Link

section Defs

/-- One bit of the cyclic redundancy check. -/
def checkBit (c : Nat) : Nat :=
  if c % 2 = 1 then (c / 2) ^^^ 0xEDB88320 else c / 2

/-- One byte of the cyclic redundancy check. -/
def checkByte (c : Nat) (b : UInt8) : Nat :=
  checkBit (checkBit (checkBit (checkBit (checkBit (checkBit (checkBit (checkBit
    (c ^^^ b.toNat))))))))

/-- The cyclic redundancy check of bytes, in 32 bits. -/
def check (bytes : Bytes) : Nat :=
  bytes.foldl checkByte 0xFFFFFFFF ^^^ 0xFFFFFFFF

/-- The number that refers to a link target, which is to be a text without halves of
characters. -/
def reference (url : Text) : Nat :=
  check (Encoding.encode8 url)

/-- The line that defines the number of a target. -/
def definition (url : Text) : Text :=
  '[' :: Text.ofNat (reference url) ++ "]:".toList ++ url

end Defs

end Link

/-- The distinct link targets recorded for a document. -/
structure Registry where
  /-- The targets in the order of their first registration. -/
  links : List Text
  /-- No target is registered twice. -/
  nodup : links.Nodup
deriving DecidableEq, Repr

namespace Registry

section Defs

/-- The registry without targets. -/
def empty : Registry :=
  ⟨[], List.nodup_nil⟩

instance : Inhabited Registry := ⟨empty⟩

/-- The registry with a target; a target that is there keeps its place. -/
def register (r : Registry) (url : Text) : Registry :=
  if h : r.links.contains url then r
  else ⟨r.links ++ [url], Text.nodup_concat r.nodup (mt List.contains_iff_mem.2 h)⟩

/-- Whether a target is registered. -/
def contains (r : Registry) (url : Text) : Bool :=
  r.links.contains url

/-- The number of targets. -/
def size (r : Registry) : Nat :=
  r.links.length

/-- All targets, and the registry without them. -/
def drain (r : Registry) : List Text × Registry :=
  (r.links, empty)

end Defs

section Laws

theorem links_register (r : Registry) (url : Text) :
    (r.register url).links = if url ∈ r.links then r.links else r.links ++ [url] := by
  by_cases h : url ∈ r.links <;> simp [register, h]

end Laws

end Registry

end ApiAtlas
