import ApiAtlas.Markup.Render

/-!
# Building documents

**Definitions.** The parts that documents are made of: headings, paragraphs, lists, code and
inline styles.  A `Recipe` is an expression over these parts; `Recipe.build` makes its node, and
`Recipe.buildWith` records the targets of its links in a registry on the way, in the order in
which the expression is written.
-/

namespace ApiAtlas

namespace Markup

section Parts

/-- A document of parts. -/
def document (parts : List Node) : Node :=
  .siblings parts

/-- A heading; its level is kept between one and six. -/
def heading (level : Int) (text : Text) : Node :=
  .element (List.replicate (min (max level 1) 6).toNat '#' ++ ' ' :: text) .block {} none

/-- A paragraph. -/
def paragraph (text : Text) (indentation : Int) : Node :=
  .element text .block { indentation := indentation } none

/-- A run of text. -/
def plain (text : Text) (indentation : Int) : Node :=
  .element text .inline { indentation := indentation } none

/-- A paragraph of nodes with single spaces between them.  Each node is written by itself, and
the link targets travel with the paragraph. -/
def inlineParagraph (parts : List Node) (indentation : Int) : Node :=
  let written := parts.map (render .reference 0)
  .element (Text.join [' '] (written.map Rendered.text)) .block
    { indentation := indentation, references := written.flatMap Rendered.links } none

/-- A list item with the members below it. -/
def listItem (marker text : Text) (members : List Node) (indentation : Int) : Node :=
  .element (marker ++ text) .block { indentation := indentation } (some (.indented members))

/-- An item of a list without order. -/
def bullet (text : Text) (members : List Node) (indentation : Int) : Node :=
  listItem "* ".toList text members indentation

/-- An item of a numbered list. -/
def numbered (text : Text) (members : List Node) (indentation : Int) : Node :=
  listItem "1. ".toList text members indentation

/-- A block of code between fences, with the name of its language. -/
def codeBlock (text language : Text) (indentation : Int) : Node :=
  .element ("```".toList ++ language ++ '\n' :: text ++ "\n```".toList) .block
    { indentation := indentation } none

/-- A text between two marks. -/
def marked (mark text : Text) : Node :=
  .element (mark ++ text ++ mark) .inline {} none

/-- Code within a line. -/
def code (text : Text) : Node :=
  marked ['`'] text

/-- Emphasised text. -/
def italics (text : Text) : Node :=
  marked ['*'] text

/-- Strong text. -/
def bold (text : Text) : Node :=
  marked ['*', '*'] text

/-- Strong and emphasised text. -/
def boldItalics (text : Text) : Node :=
  marked ['*', '*', '*'] text

/-- The target of a link as it is used: without blanks at its ends, and the page itself when
nothing is left. -/
def target (url : Text) : Text :=
  match url.strip with
  | [] => ['#']
  | t => t

/-- A link. -/
def link (text url : Text) : Node :=
  .element ('[' :: text ++ [']']) .inline { link := some (target url) } none

/-- A line break. -/
def newline : Node :=
  .element ['\n'] .inline {} none

/-- A dividing line. -/
def divider : Node :=
  .element "___".toList .block {} none

end Parts

/-- An expression over the parts of documents. -/
inductive Recipe
  | element (text : Text) (flow : Flow) (style : Style) (child : Option Recipe)
  | indented (members : List Recipe)
  | document (members : List Recipe)
  | heading (level : Int) (text : Text)
  | paragraph (text : Text) (indentation : Int)
  | plain (text : Text) (indentation : Int)
  | inlineParagraph (members : List Recipe) (indentation : Int)
  | bullet (text : Text) (members : List Recipe) (indentation : Int)
  | numbered (text : Text) (members : List Recipe) (indentation : Int)
  | codeBlock (text language : Text) (indentation : Int)
  | link (text url : Text)
  | code (text : Text)
  | italics (text : Text)
  | bold (text : Text)
  | boldItalics (text : Text)
  | newline
  | divider
  | append (node : Recipe) (members : List Recipe)
deriving Inhabited

namespace Recipe

section Defs

mutual

/-- The node of a recipe. -/
def build : Recipe → Node
  | element t f s none => .element t f s none
  | element t f s (some c) => .element t f s (some (build c))
  | indented ms => .indented (buildAll ms)
  | document ms => Markup.document (buildAll ms)
  | heading n t => Markup.heading n t
  | paragraph t i => Markup.paragraph t i
  | plain t i => Markup.plain t i
  | inlineParagraph ms i => Markup.inlineParagraph (buildAll ms) i
  | bullet t ms i => Markup.bullet t (buildAll ms) i
  | numbered t ms i => Markup.numbered t (buildAll ms) i
  | codeBlock t l i => Markup.codeBlock t l i
  | link t u => Markup.link t u
  | code t => Markup.code t
  | italics t => Markup.italics t
  | bold t => Markup.bold t
  | boldItalics t => Markup.boldItalics t
  | newline => Markup.newline
  | divider => Markup.divider
  | append n ms => (build n).append (buildAll ms)

/-- The nodes of recipes. -/
def buildAll : List Recipe → List Node
  | [] => []
  | m :: ms => build m :: buildAll ms

end

mutual

/-- The link targets that building a recipe records, in the order in which its parts are written:
a node comes before the members that are appended to it. -/
def recorded : Recipe → List Text
  | element _ _ _ none => []
  | element _ _ _ (some c) => recorded c
  | indented ms | document ms | inlineParagraph ms _ | bullet _ ms _ | numbered _ ms _ =>
    recordedAll ms
  | link _ u => [target u]
  | append n ms => recorded n ++ recordedAll ms
  | heading .. | paragraph .. | plain .. | codeBlock .. | code _ | italics _ | bold _
  | boldItalics _ | newline | divider => []

/-- The link targets that building recipes records, in order. -/
def recordedAll : List Recipe → List Text
  | [] => []
  | m :: ms => recorded m ++ recordedAll ms

end

/-- The node of a recipe, and the registry with the targets of its links. -/
def buildWith (r : Recipe) (registry : Registry) : Node × Registry :=
  (r.build, r.recorded.foldl Registry.register registry)

end Defs

end Recipe

end Markup

end ApiAtlas
