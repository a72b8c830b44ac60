import ApiAtlas.Markdown.Address
import ApiAtlas.Markdown.Inline
import ApiAtlas.Markdown.Outline

/-!
# Markdown as HTML

**Input.** A document in Markdown.

**Algorithm.** The blocks are read first, since a link may refer to a target that is defined
further down; then each block is written, with its running text read on the way.

**Definitions.** `toHtml` is the fragment of HTML that a document becomes.
-/

namespace ApiAtlas

namespace Markdown

section Tags

/-- A text between the tags of an element. -/
def tagged (name : String) (content : Text) : Text :=
  '<' :: name.toList ++ '>' :: content ++ '<' :: '/' :: name.toList ++ ['>']

/-- An element that takes whole lines. -/
def taggedLine (name : String) (content : Text) : Text :=
  tagged name content ++ ['\n']

end Tags

namespace Inline

/-- The opening tag of a link. -/
def linkTag (target : Target) : Text :=
  "<a href=\"".toList ++ escapeOnce (Address.orHarmless target.address) ++ ['"'] ++
    target.title.elim [] (fun t => " title=\"".toList ++ escapeOnce t ++ ['"']) ++ ['>']

mutual

/-- A piece of running text in HTML. -/
def toHtml : Inline → Text
  | plain t => escapeOnce t
  | literal t => escape t
  | code t => tagged "code" (escape t)
  | lineBreak => "<br />\n".toList
  | emphasis ps => tagged "em" (allToHtml [] ps)
  | strong ps => tagged "strong" (allToHtml [] ps)
  | deleted ps => tagged "del" (allToHtml [] ps)
  | link ps target => linkTag target ++ allToHtml [] ps ++ "</a>".toList

/-- Pieces of running text in HTML; `held` is the plain text just before them, since a reference may
reach from one piece of plain text into the next. -/
def allToHtml (held : Text) : List Inline → Text
  | [] => escapeOnce held
  | plain t :: ps => allToHtml (held ++ t) ps
  | p :: ps => escapeOnce held ++ (toHtml p ++ allToHtml [] ps)

end

end Inline

namespace Block

/-- The running text of a block in HTML. -/
def textToHtml (targets : Targets) (t : Text) : Text :=
  let outer c := c == ' ' || c == '\r' || c == '\n' || c == '\t' || c == '\x0c'
  Inline.allToHtml [] (Inline.read targets (Text.trim outer t))

/-- Code in HTML; its language is the first word of what follows the fence. -/
def codeToHtml (text info : Text) : Text :=
  let language :=
    match Target.words (escapeOnce info) with
    | [] => []
    | w :: _ => " class=\"language-".toList ++ w ++ ['"']
  "<pre><code".toList ++ language ++ '>' :: escape text ++ "</code></pre>\n".toList

/-- The opening tag of a list. -/
def listTag : Option Nat → Text
  | none => "<ul>\n".toList
  | some 1 => "<ol>\n".toList
  | some n => "<ol start=\"".toList ++ Text.ofNat n ++ "\">\n".toList

/-- The closing tag of a list. -/
def listEnd (start : Option Nat) : Text :=
  if start.isSome then "</ol>\n".toList else "</ul>\n".toList

mutual

/-- A block in HTML. -/
def toHtml (targets : Targets) : Block → Text
  | paragraph t => taggedLine "p" (textToHtml targets t)
  | compact t => textToHtml targets t
  | heading level t =>
    let name := 'h' :: Text.ofNat level
    '<' :: name ++ '>' :: textToHtml targets t ++ '<' :: '/' :: name ++ ['>', '\n']
  | code text info => codeToHtml text info
  | divider => "<hr />\n".toList
  | gap => []
  | quotation parts => taggedLine "blockquote" ('\n' :: allToHtml targets parts)
  | list start parts => listTag start ++ itemsToHtml targets parts ++ listEnd start

/-- Blocks in HTML. -/
def allToHtml (targets : Targets) : List Block → Text
  | [] => []
  | b :: bs => toHtml targets b ++ allToHtml targets bs

/-- The items of a list in HTML. -/
def itemsToHtml (targets : Targets) : List (List Block) → Text
  | [] => []
  | parts :: more => taggedLine "li" (allToHtml targets parts) ++ itemsToHtml targets more

end

end Block

/-- A document as a fragment of HTML. -/
def toHtml (t : Text) : Text :=
  let (blocks, targets) := outline t
  Block.allToHtml targets blocks

end Markdown

end ApiAtlas
