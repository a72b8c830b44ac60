import ApiAtlas.Markup.Link
import ApiAtlas.Markup.Node
import ApiAtlas.Text.Blank
import ApiAtlas.Text.Digit

/-!
# Written documents

**Input.** A markup tree, the indentation that it inherits, and how links are written.

**Algorithm.** A node is written after its members are, so each collection has the texts of its
members and joins them.  Links are not kept anywhere: writing a node yields the text together
with the targets it refers to, in the order in which they are met.

**Results.** The targets do not depend on the indentation (`render_links_indentation`).
-/

namespace ApiAtlas

namespace Markup

/-- A written node: its text and the link targets that the text refers to. -/
structure Rendered where
  /-- The text. -/
  text : Text
  /-- The link targets in order, with repetitions. -/
  links : List Text
deriving DecidableEq, Repr, Inhabited

/-- How links are written: as numbers that are defined elsewhere, or with their targets. -/
inductive LinkMode
  | reference
  | inline
deriving DecidableEq, Repr, Inhabited

section Defs

/-- Tabs for a level of indentation. -/
def tabs (n : Int) : Text :=
  List.replicate n.toNat '\t'

/-- Whether a text starts like a list item: with a star or with digits and a point, and a space. -/
def startsItem (t : Text) : Bool :=
  match t with
  | '*' :: ' ' :: _ => true
  | _ =>
    match t.span Text.isDigit with
    | (_ :: _, '.' :: ' ' :: _) => true
    | _ => false

/-- Members of an indented collection one after another; what begins a line is indented. -/
def joinIndented (n : Int) (texts : List Text) : Text :=
  texts.foldl
    (fun acc t => (if acc.isEmpty || acc.endsWith '\n' then acc ++ tabs n else acc) ++ t) []

/-- One more sibling after a text, which comes with the news whether it ends with a list item. -/
def addSibling (acc : Text × Bool) (t : Text) : Text × Bool :=
  let item := startsItem t
  let before := if item && acc.2 then acc.1.stripEnd ++ ['\n'] else acc.1
  (before ++ t ++ ['\n'], item)

/-- Siblings one after another, each with a line break; list items in a row are not separated by
a blank line. -/
def joinSiblings (texts : List Text) : Text :=
  (texts.foldl addSibling ([], false)).1

/-- What a link adds to the text of its element. -/
def linkMark (mode : LinkMode) (style : Style) : Text :=
  match style.link, mode with
  | none, _ => []
  | some url, .inline => '(' :: url ++ [')']
  | some url, .reference => '[' :: Text.ofNat (Link.reference url) ++ [']']

/-- The link targets that an element itself refers to. -/
def ownLinks (mode : LinkMode) (style : Style) : List Text :=
  match style.link, mode with
  | some url, .reference => url :: style.references
  | _, _ => style.references

/-- The text of an element without its child: indented on each line, after its line breaks. -/
def elementText (mode : LinkMode) (inherited : Int) (text : Text) (flow : Flow) (style : Style) :
    Text :=
  let line := tabs style.indentation ++ text ++ linkMark mode style
  List.replicate style.breaksBefore.toNat '\n' ++
    Text.replaceChar '\n' ('\n' :: tabs style.indentation ++ tabs inherited) line ++
    (match flow with
      | .block => ['\n']
      | .inline => [])

mutual

/-- The text of a node and its link targets. -/
def render (mode : LinkMode) (inherited : Int) : Node → Rendered
  | .element text flow style none =>
    ⟨elementText mode inherited text flow style, ownLinks mode style⟩
  | .element text flow style (some child) =>
    let below := render mode (inherited + 1) child
    ⟨elementText mode inherited text flow style ++ below.text, ownLinks mode style ++ below.links⟩
  | .indented nodes =>
    let members := renderAll mode inherited nodes
    ⟨joinIndented inherited (members.map Rendered.text), members.flatMap Rendered.links⟩
  | .siblings nodes =>
    let members := renderAll mode inherited nodes
    ⟨joinSiblings (members.map Rendered.text), members.flatMap Rendered.links⟩

/-- The texts of nodes and their link targets. -/
def renderAll (mode : LinkMode) (inherited : Int) : List Node → List Rendered
  | [] => []
  | n :: ns => render mode inherited n :: renderAll mode inherited ns

end

/-- A node in one piece: links with their targets, no blanks at the ends. -/
def describe (n : Node) : Text :=
  (render .inline 0 n).text.strip

/-- The definitions of link targets, one on each line. -/
def definitions (links : List Text) : Text :=
  Text.join ['\n'] ((Text.distinct links).map Link.definition)

/-- A whole document with the definitions of its link targets and of those still registered. -/
def finalizeWith (n : Node) (r : Registry) : Text × Registry :=
  let rendered := render .reference 0 n
  let (held, rest) := r.drain
  (rendered.text ++ '\n' :: definitions (rendered.links ++ held), rest)

/-- A whole document with the definitions of its link targets. -/
def finalize (n : Node) : Text :=
  (finalizeWith n Registry.empty).1

end Defs

section Laws

theorem renderAll_eq_map (mode : LinkMode) (inherited : Int) (ns : List Node) :
    renderAll mode inherited ns = ns.map (render mode inherited) := by
  induction ns with
  | nil => simp [renderAll]
  | cons n ns ih => simp [renderAll, ih]

mutual

/-- The link targets of a node do not depend on its indentation. -/
theorem render_links_indentation (mode : LinkMode) (i j : Int) :
    (n : Node) → (render mode i n).links = (render mode j n).links
  | .element t f s none => by simp [render]
  | .element t f s (some c) => by
    simp [render, render_links_indentation mode (i + 1) (j + 1) c]
  | .indented ns => by
    simp only [render]
    exact renderAll_links_indentation mode i j ns
  | .siblings ns => by
    simp only [render]
    exact renderAll_links_indentation mode i j ns

/-- The link targets of nodes do not depend on their indentation. -/
theorem renderAll_links_indentation (mode : LinkMode) (i j : Int) :
    (ns : List Node) →
      (renderAll mode i ns).flatMap Rendered.links = (renderAll mode j ns).flatMap Rendered.links
  | [] => by simp [renderAll]
  | n :: ns => by
    simp [renderAll, render_links_indentation mode i j n, renderAll_links_indentation mode i j ns]

end

end Laws

end Markup

end ApiAtlas
