import ApiAtlas.Markup.Render

/-!
# The accounts of links

**Input.** A markup tree, the indentation that it inherits, and how links are written.

**Definitions.** `Node.styles` goes through the elements of a tree, an element before its child and
the members of a collection in order.  `Accounted` says which link targets a written tree reports,
and when the way in which links are written does not show in its text.

**Results.**
* `links_render`: the targets are those of the elements, one element after another.
* `links_render_append`: appended nodes add their targets at the end.
* `text_render_of_unlinked`: where no element is a link, both ways give the same text.
* `accounted`: the accounts of every tree are right.
-/

namespace ApiAtlas

namespace Markup

namespace Node

mutual

/-- How the elements of a node are written, each element before its child. -/
def styles : Node → List Style
  | element _ _ s none => [s]
  | element _ _ s (some c) => s :: styles c
  | indented ns | siblings ns => stylesAll ns

/-- How the elements of nodes are written, node by node. -/
def stylesAll : List Node → List Style
  | [] => []
  | n :: ns => styles n ++ stylesAll ns

end

/-- Whether no element of a node is a link. -/
def Unlinked (n : Node) : Prop :=
  ∀ s ∈ n.styles, s.link = none

end Node

open Node

section Links

theorem ownLinks_reference (s : Style) : ownLinks .reference s = s.link.toList ++ s.references := by
  cases h : s.link with
  | none => simp [ownLinks, h]
  | some url => simp [ownLinks, h]

theorem ownLinks_inline (s : Style) : ownLinks .inline s = s.references := by
  cases h : s.link with
  | none => simp [ownLinks, h]
  | some url => simp [ownLinks, h]

mutual

/-- A written node reports the targets of its elements, one element after another. -/
theorem links_render (mode : LinkMode) (i : Int) :
    (n : Node) → (render mode i n).links = n.styles.flatMap (ownLinks mode)
  | .element t f s none => by
    simp [render, styles]
  | .element t f s (some c) => by
    simp [render, styles, links_render mode (i + 1) c]
  | .indented ns => by
    rw [render, styles]
    exact links_renderAll mode i ns
  | .siblings ns => by
    rw [render, styles]
    exact links_renderAll mode i ns

/-- Written nodes report the targets of their elements, node by node. -/
theorem links_renderAll (mode : LinkMode) (i : Int) : (ns : List Node) →
    (renderAll mode i ns).flatMap Rendered.links = (stylesAll ns).flatMap (ownLinks mode)
  | [] => by
    simp [renderAll, stylesAll]
  | n :: ns => by
    rw [renderAll, stylesAll, List.flatMap_cons, List.flatMap_append, links_render mode i n,
      links_renderAll mode i ns]

end

end Links

section Appending

theorem stylesAll_eq_flatMap (ns : List Node) : stylesAll ns = ns.flatMap styles := by
  induction ns with
  | nil => simp [stylesAll]
  | cons n ns ih => simp [stylesAll, ih]

/-- Appended nodes have their elements after all others. -/
theorem styles_append (xs : List Node) : (n : Node) →
    (n.append xs).styles = n.styles ++ xs.flatMap styles
  | .siblings ns => by
    simp [Node.append, styles, stylesAll_eq_flatMap]
  | .indented ns => by
    simp [Node.append, styles, stylesAll_eq_flatMap]
  | .element t f s none => by
    simp [Node.append, styles, stylesAll_eq_flatMap]
  | .element t f s (some c) => by
    simp [Node.append, styles, styles_append xs c]

/-- Appended nodes add their targets at the end, whatever the indentation of each is. -/
theorem links_render_append (mode : LinkMode) (i j : Int) (n : Node) (xs : List Node) :
    (render mode i (n.append xs)).links =
      (render mode i n).links ++ xs.flatMap fun x => (render mode j x).links := by
  simp only [links_render, styles_append, List.flatMap_append, List.flatMap_assoc]

end Appending

section Texts

/-- What is no link is written in one way. -/
theorem elementText_of_unlinked {s : Style} (h : s.link = none) (i : Int) (t : Text) (f : Flow) :
    elementText .inline i t f s = elementText .reference i t f s := by
  have hmark : ∀ mode, linkMark mode s = [] := by
    intro mode
    simp [linkMark, h]
  simp only [elementText, hmark]

mutual

/-- Where no element is a link, both ways of writing links give the same text. -/
theorem text_render_of_unlinked (i : Int) :
    (n : Node) → n.Unlinked →
      (render .inline i n).text = (render .reference i n).text
  | .element t f s none, h => by
    rw [render, render]
    exact elementText_of_unlinked (h s (by simp [styles])) i t f
  | .element t f s (some c), h => by
    have hown : elementText .inline i t f s = elementText .reference i t f s :=
      elementText_of_unlinked (h s (by simp [styles])) i t f
    have hchild : (render .inline (i + 1) c).text = (render .reference (i + 1) c).text :=
      text_render_of_unlinked (i + 1) c fun s' hs' => h s' (by simp [styles, hs'])
    simp only [render, hown, hchild]
  | .indented ns, h => by
    simp only [render]
    rw [text_renderAll_of_unlinked i ns fun s hs => h s (by simpa [styles] using hs)]
  | .siblings ns, h => by
    simp only [render]
    rw [text_renderAll_of_unlinked i ns fun s hs => h s (by simpa [styles] using hs)]

/-- The same for the nodes of a collection, which are joined by their texts alone. -/
theorem text_renderAll_of_unlinked (i : Int) :
    (ns : List Node) → (∀ s ∈ stylesAll ns, s.link = none) →
      (renderAll .inline i ns).map Rendered.text = (renderAll .reference i ns).map Rendered.text
  | [], _ => by
    simp [renderAll]
  | n :: ns, h => by
    have hfirst : (render .inline i n).text = (render .reference i n).text :=
      text_render_of_unlinked i n fun s hs => h s (by simp [stylesAll, hs])
    have hrest := text_renderAll_of_unlinked i ns fun s hs => h s (by simp [stylesAll, hs])
    simp only [renderAll, List.map_cons, hfirst, hrest]

end

end Texts

section Accounts

/-- The accounts of the links of a written node. -/
structure Accounted (n : Node) : Prop where
  /-- With numbers for links, each element reports its own target and then those it carries. -/
  reference : ∀ i, (render .reference i n).links =
    n.styles.flatMap fun s => s.link.toList ++ s.references
  /-- With the targets in the text, each element reports those it carries. -/
  inline : ∀ i, (render .inline i n).links = n.styles.flatMap Style.references
  /-- The indentation does not matter. -/
  indentation : ∀ mode i j, (render mode i n).links = (render mode j n).links
  /-- Without links, the way in which they are written does not show. -/
  text : n.Unlinked → ∀ i, (render .inline i n).text = (render .reference i n).text

/-- A written node reports every link target of its elements, in their order, and nothing else. -/
theorem accounted (n : Node) : Accounted n := by
  constructor
  case reference =>
    intro i
    rw [links_render, funext ownLinks_reference]
  case inline =>
    intro i
    rw [links_render, funext ownLinks_inline]
  case indentation =>
    intro mode i j
    exact render_links_indentation mode i j n
  case text =>
    intro h i
    exact text_render_of_unlinked i n h

end Accounts

end Markup

end ApiAtlas
