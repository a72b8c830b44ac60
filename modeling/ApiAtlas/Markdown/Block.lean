import ApiAtlas.Text.Basic

/-!
# Blocks of a document

**Definitions.** A `Block` is one part of a document; quotations and list items hold blocks of
their own.  The paragraphs of a tight list stand without space around them: they are `compact`.
Blank lines between blocks are kept as a `gap`, which shows nowhere but makes a list loose.
-/

namespace ApiAtlas

namespace Markdown

/-- A part of a document. -/
inductive Block
  | paragraph (text : Text)
  | compact (text : Text)
  | heading (level : Nat) (text : Text)
  | code (text info : Text)
  | divider
  | gap
  | quotation (parts : List Block)
  | list (start : Option Nat) (items : List (List Block))
deriving Inhabited

namespace Block

/-- Whether the block is a paragraph. -/
def isParagraph : Block → Bool
  | paragraph _ => true
  | _ => false

/-- Whether the block is a gap. -/
def isGap : Block → Bool
  | gap => true
  | _ => false

/-- Whether the content of an item makes its list loose: there is a gap in it, or a second
paragraph. -/
def areLoose (parts : List Block) : Bool :=
  parts.any isGap || 1 < (parts.filter isParagraph).length

/-- A paragraph in a tight list. -/
def tighten : Block → Block
  | paragraph t => compact t
  | b => b

/-- The list of items; `spaced` says that blank lines stand between them. -/
def ofItems (start : Option Nat) (spaced : Bool) (items : List (List Block)) : Block :=
  if spaced || items.any areLoose then list start items
  else list start (items.map fun parts => parts.map tighten)

end Block

end Markdown

end ApiAtlas
