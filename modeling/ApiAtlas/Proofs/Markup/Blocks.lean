import ApiAtlas.Markup.Build
import ApiAtlas.Proofs.Markup.Siblings
import Mathlib.Data.List.Basic

/-!
# How the parts of a document are written

**Input.** The parts that documents are made of.

**Definitions.** `IsPlainBlock` are the nodes that are written as lines of their own.  `tabbed` is a
text moved one level in: a tab before each of its lines, and a line break after it.

**Results.**
* `finalize_document`: a document whose parts refer to no target is the text of its parts.
* `render_bullet`: the paragraphs below a list item are moved one level in, line by line.
* `describe_marked`: marks protect the text between them from being trimmed.
-/

namespace ApiAtlas

namespace Text

/-- Replacing a line break by one with something after it puts that before every line. -/
theorem flatMap_pieces (a : Char) (before t : Text) :
    ((pieces a t).flatMap fun line => before ++ line ++ [a]) =
      before ++ replaceChar a (a :: before) t ++ [a] := by
  induction t with
  | nil => simp [pieces, replaceChar]
  | cons c t ih =>
      by_cases hc : c = a
      · rw [pieces, if_pos hc, List.flatMap_cons, ih, replaceChar, if_pos hc]
        simp
      · obtain ⟨p, ps, hps⟩ : ∃ p ps, pieces a t = p :: ps := by
          rw [pieces_eq_splitOn]
          exact List.exists_cons_of_ne_nil (List.splitOn_ne_nil a t)
        rw [hps, List.flatMap_cons, List.append_assoc, List.append_assoc, List.append_assoc,
          List.append_cancel_left_eq] at ih
        rw [pieces, if_neg hc, hps, replaceChar, if_neg hc]
        simpa using ih

end Text

namespace Markup

section Parts

/-- Whether a node is written as lines of its own, and refers to no target. -/
def IsPlainBlock (n : Node) : Prop :=
  ∃ t : Text, render .reference 0 n = ⟨t ++ ['\n'], []⟩

/-- The lines of a text, each after a tab and with a line break. -/
def tabbed (t : Text) : Text :=
  (t.pieces '\n').flatMap fun line => '\t' :: line ++ ['\n']

theorem IsPlainBlock.links_eq {n : Node} (h : IsPlainBlock n) :
    (render .reference 0 n).links = [] := by
  obtain ⟨t, ht⟩ := h
  rw [ht]

theorem render_paragraph_under (mode : LinkMode) (n : Int) (t : Text) :
    render mode n (paragraph t 0) =
      ⟨Text.replaceChar '\n' ('\n' :: tabs n) t ++ ['\n'], []⟩ := by
  simp [paragraph, render, elementText, ownLinks, linkMark, tabs]

theorem render_paragraph (t : Text) : render .reference 0 (paragraph t 0) = ⟨t ++ ['\n'], []⟩ := by
  rw [render_paragraph_under]
  simp [tabs]

theorem isPlainBlock_heading (level : Int) (t : Text) : IsPlainBlock (heading level t) :=
  ⟨_, render_paragraph _⟩

theorem render_marked (mode : LinkMode) (mark t : Text) :
    render mode 0 (marked mark t) = ⟨mark ++ t ++ mark, []⟩ := by
  simp [marked, render, elementText, ownLinks, linkMark, tabs]

theorem describe_marked {mark : Text} (hne : mark ≠ []) (h : ∀ c ∈ mark, Text.isBlank c = false)
    (t : Text) : describe (marked mark t) = mark ++ t ++ mark := by
  rw [describe, render_marked]
  apply Text.strip_eq_self
  · intro c hc
    rw [List.append_assoc, List.head?_append_of_ne_nil _ hne] at hc
    exact h c (List.mem_of_head? hc)
  · intro c hc
    rw [List.getLast?_append_of_ne_nil _ hne] at hc
    exact h c (List.mem_of_getLast? hc)

/-- Members that end their lines follow each other line by line. -/
theorem foldl_lines (n : Int) {ts : List Text} (h : ∀ t ∈ ts, ∃ u, t = u ++ ['\n']) {acc : Text}
    (hacc : (acc.isEmpty || acc.endsWith '\n') = true) :
    ts.foldl (fun acc t => (if acc.isEmpty || acc.endsWith '\n' then acc ++ tabs n else acc) ++ t)
      acc = acc ++ ts.flatMap fun t => tabs n ++ t := by
  induction ts generalizing acc with
  | nil => simp
  | cons t ts ih =>
      obtain ⟨u, rfl⟩ := h t (List.mem_cons_self ..)
      have hnext : ((acc ++ tabs n ++ (u ++ ['\n'])).isEmpty ||
          (acc ++ tabs n ++ (u ++ ['\n'])).endsWith '\n') = true := by
        simp [Text.endsWith]
      rw [List.foldl_cons, if_pos hacc, ih (fun t ht => h t (List.mem_cons_of_mem _ ht)) hnext]
      simp

theorem joinIndented_lines (n : Int) {ts : List Text} (h : ∀ t ∈ ts, ∃ u, t = u ++ ['\n']) :
    joinIndented n ts = ts.flatMap fun t => tabs n ++ t :=
  foldl_lines n h rfl

theorem tabbed_eq (t : Text) :
    tabbed t = tabs 1 ++ (Text.replaceChar '\n' ('\n' :: tabs 1) t ++ ['\n']) := by
  rw [← List.append_assoc]
  exact Text.flatMap_pieces '\n' ['\t'] t

theorem render_bullet (t : Text) (below : List Text) :
    render .reference 0 (bullet t (below.map fun u => paragraph u 0) 0) =
      ⟨"* ".toList ++ t ++ '\n' :: below.flatMap tabbed, []⟩ := by
  have hbelow : render .reference (0 + 1) (.indented (below.map fun u => paragraph u 0)) =
      ⟨below.flatMap tabbed, []⟩ := by
    simp only [render, renderAll_eq_map, List.map_map, Function.comp_def, render_paragraph_under]
    rw [joinIndented_lines (0 + 1) (by simp), List.flatMap_map, funext tabbed_eq]
    simp
  have hown : elementText .reference 0 ("* ".toList ++ t) .block {} = "* ".toList ++ t ++ ['\n'] :=
    congrArg Rendered.text (render_paragraph _)
  rw [bullet, listItem, render, hbelow, hown]
  simp [ownLinks]

theorem isPlainBlock_bullet (t : Text) : IsPlainBlock (bullet t [] 0) :=
  ⟨_, render_bullet t []⟩

end Parts

section Documents

/-- A sibling that is no list item is written after the others as it is. -/
theorem joinSiblings_concat (ts : List Text) {t : Text} (h : startsItem t = false) :
    joinSiblings (ts ++ [t]) = joinSiblings ts ++ t ++ ['\n'] := by
  rw [joinSiblings, List.foldl_append, List.foldl_cons, List.foldl_nil, addSibling, h]
  rfl

/-- A last sibling is written after some text, which depends on the others. -/
theorem exists_joinSiblings (ts : List Text) (t : Text) :
    ∃ body, joinSiblings (ts ++ [t]) = body ++ t ++ ['\n'] := by
  simp only [joinSiblings, List.foldl_append, List.foldl_cons, List.foldl_nil, addSibling]
  exact ⟨_, rfl⟩

/-- A document whose parts refer to no target has no definitions at its end. -/
theorem finalize_document {nodes : List Node}
    (h : ∀ n ∈ nodes, (render .reference 0 n).links = []) :
    finalize (document nodes) =
      joinSiblings (nodes.map fun n => (render .reference 0 n).text) ++ ['\n'] := by
  have hlinks : (nodes.map (render .reference 0)).flatMap Rendered.links = [] := by
    rw [List.flatMap_eq_nil_iff]
    intro r hr
    obtain ⟨n, hn, rfl⟩ := List.mem_map.1 hr
    exact h n hn
  simp only [finalize, finalizeWith, document, render, renderAll_eq_map, hlinks, List.map_map]
  rfl

end Documents

end Markup

end ApiAtlas
