import ApiAtlas.Markup.Render
import Mathlib.Data.List.Basic
import Mathlib.Data.List.Induction

/-!
# Lines and the levels above them

**Input.** A tree of elements and indented collections, the number of levels above it, and how links
are written.

**Definitions.** `IsLine` is a piece of a text between line breaks, with the place where it begins.
`IsOutline` are the trees whose elements have indented collections below them.  `WrittenAt` says
after which text a part of a tree is written, and how many elements stand above it.

**Algorithm.** A text is put together from left to right, and what matters at each seam is what
follows the last line break.  `IndentsBreaks` is the strong form: whatever comes next begins its line
with tabs.  It holds of the own text of an element and of a collection that waits for its next
member, so appending anything with indented lines keeps the lines indented.

**Results.** `IsOutline.contained`: no line break in a text, at whatever depth, begins a line with
fewer tabs than there are levels above it.
-/

namespace ApiAtlas

namespace Text

/-- A line of a text: a piece between line breaks, which begins after `start` characters.  An empty
piece at the end of the text is no line. -/
def IsLine (t : Text) (start : Nat) (line : Text) : Prop :=
  ∃ front back, pieces '\n' t = front ++ line :: back ∧ (line ≠ [] ∨ back ≠ []) ∧
    start = (front.flatMap fun p => p ++ ['\n']).length

theorem join_append_cons (a : Char) (front : List Text) (t : Text) (back : List Text) :
    join [a] (front ++ t :: back) = (front.flatMap fun p => p ++ [a]) ++ join [a] (t :: back) := by
  induction front with
  | nil => rfl
  | cons p front ih =>
      obtain ⟨q, qs, hqs⟩ := List.exists_cons_of_ne_nil (l := front ++ t :: back) (by simp)
      rw [hqs] at ih
      rw [List.cons_append, hqs, join, ih]
      simp

theorem join_pieces (a : Char) (t : Text) : join [a] (pieces a t) = t := by
  rw [join_eq_intercalate, pieces_eq_splitOn, List.intercalate_splitOn]

/-- What stands around a line: a line break or nothing on either side. -/
structure LineIn (t before line rest : Text) : Prop where
  text_eq : t = before ++ (line ++ rest)
  begins : before = [] ∨ ∃ u, before = u ++ ['\n']
  unbroken : '\n' ∉ line
  ends : rest = [] ∨ ∃ u, rest = '\n' :: u
  proper : line ++ rest ≠ []

theorem IsLine.exists_lineIn {t : Text} {start : Nat} {line : Text} (h : IsLine t start line) :
    ∃ before rest, LineIn t before line rest ∧ before.length = start := by
  obtain ⟨front, back, hpieces, hproper, rfl⟩ := h
  have htext : t = (front.flatMap fun p => p ++ ['\n']) ++ join ['\n'] (line :: back) := by
    rw [← join_append_cons, ← hpieces, join_pieces]
  have hrest : ∃ rest, join ['\n'] (line :: back) = line ++ rest ∧
      (rest = [] ∨ ∃ u, rest = '\n' :: u) ∧ line ++ rest ≠ [] := by
    cases back with
    | nil => exact ⟨[], by simp, Or.inl rfl, by simpa using hproper⟩
    | cons p ps => exact ⟨'\n' :: join ['\n'] (p :: ps), by simp [join], Or.inr ⟨_, rfl⟩, by simp⟩
  obtain ⟨rest, hjoin, hends, hne⟩ := hrest
  refine ⟨front.flatMap fun p => p ++ ['\n'], rest, ⟨?_, ?_, ?_, hends, hne⟩, rfl⟩
  · rw [htext, hjoin]
  · rcases List.eq_nil_or_concat' front with rfl | ⟨init, last, rfl⟩
    · exact Or.inl rfl
    · exact Or.inr ⟨(init.flatMap fun p => p ++ ['\n']) ++ last, by simp⟩
  · exact not_mem_of_mem_pieces (t := t) (by simp [hpieces])

/-- A line does not go on after a line break. -/
theorem LineIn.length_le {t before l rest x : Text} (h : LineIn t before l rest)
    (hbreak : x ++ ['\n'] <+: t) (hle : before.length ≤ x.length) :
    before.length + l.length ≤ x.length := by
  by_contra hlt
  have hat : t[x.length]? = some '\n' := by
    obtain ⟨y, rfl⟩ := hbreak
    simp
  have hline : t[x.length]? = l[x.length - before.length]? := by
    rw [h.text_eq, List.getElem?_append_right hle, List.getElem?_append_left (by omega)]
  rw [hline] at hat
  exact h.unbroken (List.mem_of_getElem? hat)

end Text

namespace Markup

open Text

section Tabs

theorem eq_tab_of_mem_tabs {n : Int} {c : Char} (h : c ∈ tabs n) : c = '\t' :=
  List.eq_of_mem_replicate h

theorem tabs_prefix_tabs {m n : Int} (h : m ≤ n) : tabs m <+: tabs n := by
  rw [tabs, tabs, List.prefix_replicate_iff]
  simp only [List.length_replicate, and_true]
  omega

theorem tabs_prefix_append_tabs (m n : Int) : tabs n <+: tabs m ++ tabs n := by
  rw [tabs, tabs, List.replicate_append_replicate, List.prefix_replicate_iff]
  simp

/-- Tabs in front of a line belong to it. -/
theorem tabs_prefix_of_append {n : Int} {line rest : Text} (h : tabs n <+: line ++ rest)
    (hrest : rest = [] ∨ ∃ u, rest = '\n' :: u) : tabs n <+: line := by
  rcases List.prefix_or_prefix_of_prefix h (List.prefix_append line rest) with hline | ⟨more, hmore⟩
  · exact hline
  · cases more with
    | nil =>
        simp [← hmore]
    | cons c more =>
        rw [← hmore, List.prefix_append_right_inj] at h
        rcases hrest with rfl | ⟨u, rfl⟩
        · simp at h
        · have hc : c = '\n' := (List.cons_prefix_cons.1 h).1
          have htab : c = '\t' := eq_tab_of_mem_tabs (n := n) (by simp [← hmore])
          rw [hc] at htab
          exact absurd htab (by decide)

end Tabs

section Breaks

/-- Whether every line break of a text is followed by tabs. -/
def IndentsBreaks (n : Int) (t : Text) : Prop :=
  ∀ u v, t = u ++ '\n' :: v → tabs n <+: v

/-- Whether every line but the first begins with tabs; nothing has to follow a line break at the
end. -/
def IndentsLines (n : Int) (t : Text) : Prop :=
  ∀ u v, t = u ++ '\n' :: v → v ≠ [] → tabs n <+: v

/-- Whether every line begins with tabs. -/
structure Indented (n : Int) (t : Text) : Prop where
  first : t = [] ∨ tabs n <+: t
  others : IndentsLines n t

variable {m n : Int} {t u : Text}

theorem IndentsLines.mono (h : IndentsLines n t) (hmn : m ≤ n) : IndentsLines m t :=
  fun u v huv hv => (tabs_prefix_tabs hmn).trans (h u v huv hv)

/-- A line break in a text of two parts stands in one of them. -/
theorem break_of_append {before after : Text} (h : t ++ u = before ++ '\n' :: after) :
    (∃ x, u = x ++ '\n' :: after) ∨ ∃ x, t = before ++ '\n' :: x ∧ after = x ++ u := by
  rcases List.append_eq_append_iff.1 h with ⟨x, -, hx⟩ | ⟨x, hx, hafter⟩
  · exact Or.inl ⟨x, hx⟩
  · cases x with
    | nil => exact Or.inl ⟨[], hafter.symm⟩
    | cons c x =>
        obtain ⟨rfl, rfl⟩ := List.cons.inj hafter
        exact Or.inr ⟨x, hx, rfl⟩

theorem IndentsBreaks.append (ht : IndentsBreaks n t) (hu : IndentsBreaks n u) :
    IndentsBreaks n (t ++ u) := by
  intro before after hsplit
  rcases break_of_append hsplit with ⟨x, hx⟩ | ⟨x, hx, rfl⟩
  · exact hu x after hx
  · exact (ht before x hx).trans (List.prefix_append x u)

theorem IndentsBreaks.append_lines (ht : IndentsBreaks n t) (hu : IndentsLines n u) :
    IndentsLines n (t ++ u) := by
  intro before after hsplit hne
  rcases break_of_append hsplit with ⟨x, hx⟩ | ⟨x, hx, rfl⟩
  · exact hu x after hx hne
  · exact (ht before x hx).trans (List.prefix_append x u)

theorem IndentsBreaks.cons {c : Char} (h : IndentsBreaks n t) (hc : c = '\n' → tabs n <+: t) :
    IndentsBreaks n (c :: t) := by
  intro u v hsplit
  cases u with
  | nil =>
      obtain ⟨rfl, rfl⟩ := List.cons.inj hsplit
      exact hc rfl
  | cons b u =>
      exact h u v (List.cons.inj hsplit).2

theorem indentsLines_nil : IndentsLines n [] := by
  intro u v h
  simp at h

/-- A line break before an indented text begins an indented line. -/
theorem Indented.after_break (h : Indented n t) : IndentsLines n ('\n' :: t) := by
  intro u v hsplit hne
  cases u with
  | nil =>
      obtain ⟨-, rfl⟩ := List.cons.inj hsplit
      exact h.first.resolve_left hne
  | cons c u =>
      exact h.others u v (List.cons.inj hsplit).2 hne

theorem indentsBreaks_tabs : IndentsBreaks n (tabs m) := by
  intro u v h
  have hbreak : '\n' = '\t' := eq_tab_of_mem_tabs (n := m) (by simp [h])
  exact absurd hbreak (by decide)

/-- Line breaks that are written with tabs after them. -/
theorem indentsBreaks_replaceChar (i : Int) (t : Text) :
    IndentsBreaks n (replaceChar '\n' ('\n' :: tabs i ++ tabs n) t) := by
  induction t with
  | nil =>
      intro u v h
      simp [replaceChar] at h
  | cons c t ih =>
      by_cases hc : c = '\n'
      · rw [replaceChar, if_pos hc]
        apply IndentsBreaks.cons
        · exact (indentsBreaks_tabs.append indentsBreaks_tabs).append ih
        · exact fun _ => (tabs_prefix_append_tabs i n).trans (List.prefix_append ..)
      · rw [replaceChar, if_neg hc]
        exact ih.cons fun hbreak => absurd hbreak hc

end Breaks

section Trees

variable {mode : LinkMode}

/-- Trees of elements and indented collections: no element has line breaks before it, and what
stands below an element is an indented collection. -/
inductive IsOutline : Node → Prop
  | leaf {text flow style} (h : style.breaksBefore ≤ 0) : IsOutline (.element text flow style none)
  | item {text flow style nodes} (h : style.breaksBefore ≤ 0) (below : IsOutline (.indented nodes)) :
    IsOutline (.element text flow style (some (.indented nodes)))
  | collection {nodes} (h : ∀ node ∈ nodes, IsOutline node) : IsOutline (.indented nodes)

/-- The text to which the next member of a collection is added: what begins a line is indented. -/
def opened (n : Int) (t : Text) : Text :=
  if t.isEmpty || t.endsWith '\n' then t ++ tabs n else t

theorem joinIndented_concat (n : Int) (ts : List Text) (t : Text) :
    joinIndented n (ts ++ [t]) = opened n (joinIndented n ts) ++ t := by
  simp [joinIndented, opened]

theorem prefix_joinIndented_append (n : Int) (ts us : List Text) :
    joinIndented n ts <+: joinIndented n (ts ++ us) := by
  induction us using List.reverseRecOn with
  | nil => simp
  | append_singleton us u ih =>
      have hopened : joinIndented n (ts ++ us) <+: opened n (joinIndented n (ts ++ us)) := by
        rw [opened]
        split
        · exact List.prefix_append ..
        · exact List.prefix_rfl
      rw [← List.append_assoc, joinIndented_concat]
      exact (ih.trans hopened).trans (List.prefix_append ..)

/-- One more member: every line break so far is followed by tabs when the member is added. -/
theorem Indented.indentsBreaks_opened {n : Int} {t : Text} (h : Indented n t) :
    IndentsBreaks n (opened n t) := by
  intro u v hsplit
  rw [opened] at hsplit
  split at hsplit
  · rcases break_of_append hsplit with ⟨x, hx⟩ | ⟨x, hx, rfl⟩
    · exact indentsBreaks_tabs x v hx
    · by_cases hend : x = []
      · subst hend
        exact List.prefix_rfl
      · exact (h.others u x hx hend).trans (List.prefix_append ..)
  · next hend =>
      apply h.others u v hsplit
      rintro rfl
      simp [hsplit, Text.endsWith] at hend

theorem Indented.prefix_opened {n : Int} {t : Text} (h : Indented n t) : tabs n <+: opened n t := by
  rw [opened]
  split
  · next hend =>
      rcases h.first with rfl | hfirst
      · exact List.prefix_rfl
      · exact hfirst.trans (List.prefix_append ..)
  · next hend =>
      apply h.first.resolve_left
      rintro rfl
      simp at hend

/-- Members whose lines are indented make a collection with indented lines. -/
theorem indented_joinIndented {n : Int} {ts : List Text} (h : ∀ t ∈ ts, IndentsLines n t) :
    Indented n (joinIndented n ts) := by
  induction ts using List.reverseRecOn with
  | nil => exact ⟨Or.inl rfl, indentsLines_nil⟩
  | append_singleton ts t ih =>
      have hts : Indented n (joinIndented n ts) := ih fun u hu => h u (List.mem_append_left _ hu)
      rw [joinIndented_concat]
      refine ⟨Or.inr (hts.prefix_opened.trans (List.prefix_append ..)), ?_⟩
      exact hts.indentsBreaks_opened.append_lines (h t (by simp))

/-- The text of an element before what stands below it. -/
theorem IndentsLines.elementText_append {n : Int} {style : Style} (h : style.breaksBefore ≤ 0)
    (text : Text) (flow : Flow) {below : Text} (hbelow : Indented n below) :
    IndentsLines n (elementText mode n text flow style ++ below) := by
  have hbreaks : style.breaksBefore.toNat = 0 := by omega
  simp only [elementText, hbreaks, List.replicate_zero, List.nil_append, List.append_assoc]
  apply (indentsBreaks_replaceChar style.indentation _).append_lines
  cases flow with
  | inline => exact hbelow.others
  | block => exact hbelow.after_break

theorem Indented.mono {m n : Int} {t : Text} (h : Indented n t) (hmn : m ≤ n) : Indented m t :=
  ⟨h.first.imp_right (tabs_prefix_tabs hmn).trans, h.others.mono hmn⟩

/-- The lines of an outline are indented, those of a collection from the first one on. -/
theorem IsOutline.indentsLines {tree : Node} (h : IsOutline tree) (n : Int) :
    IndentsLines n (render mode n tree).text ∧
      ∀ nodes, tree = .indented nodes → Indented n (render mode n tree).text := by
  induction h generalizing n with
  | @leaf text flow style hstyle =>
      refine ⟨?_, fun nodes hnodes => by simp at hnodes⟩
      have hleaf : IndentsLines n (elementText mode n text flow style ++ []) :=
        IndentsLines.elementText_append hstyle text flow ⟨Or.inl rfl, indentsLines_nil⟩
      rw [List.append_nil] at hleaf
      exact hleaf
  | @item text flow style nodes hstyle below ih =>
      refine ⟨?_, fun nodes hnodes => by simp at hnodes⟩
      have hbelow := ((ih (n + 1)).2 nodes rfl).mono (show n ≤ n + 1 by omega)
      exact IndentsLines.elementText_append hstyle text flow hbelow
  | @collection nodes h ih =>
      have hnodes : Indented n (render mode n (.indented nodes)).text := by
        apply indented_joinIndented
        intro t ht
        rw [renderAll_eq_map, List.map_map] at ht
        obtain ⟨node, hnode, rfl⟩ := List.mem_map.1 ht
        exact (ih node hnode n).1
      exact ⟨hnodes.others, fun _ _ => hnodes⟩

end Trees

section Places

variable {mode : LinkMode}

/-- Where the parts of a tree are written: when `tree` is written under `n` levels, the text of
`part` comes right after `before`, and `d` elements stand above it. -/
inductive WrittenAt (mode : LinkMode) : (n : Int) → (tree : Node) → (before : Text) → (d : Nat) →
    (part : Node) → Prop
  | self (n : Int) (tree : Node) : WrittenAt mode n tree [] 0 tree
  | child {n text flow style child before d part}
    (h : WrittenAt mode (n + 1) child before d part) :
    WrittenAt mode n (.element text flow style (some child))
      (elementText mode n text flow style ++ before) (d + 1) part
  | member {n front node back before d part} (h : WrittenAt mode n node before d part) :
    WrittenAt mode n (.indented (front ++ node :: back))
      (opened n (render mode n (.indented front)).text ++ before) d part

theorem WrittenAt.isOutline {n : Int} {tree part : Node} {before : Text} {d : Nat}
    (h : WrittenAt mode n tree before d part) (htree : IsOutline tree) : IsOutline part := by
  induction h with
  | self => exact htree
  | child h ih =>
      cases htree with
      | item hstyle below => exact ih below
  | member h ih =>
      cases htree with
      | collection hnodes => exact ih (hnodes _ (by simp))

theorem WrittenAt.isPrefix {n : Int} {tree part : Node} {before : Text} {d : Nat}
    (h : WrittenAt mode n tree before d part) :
    before ++ (render mode (n + d) part).text <+: (render mode n tree).text := by
  induction h with
  | self n tree =>
      simp
  | @child n text flow style child before d part h ih =>
      have hlevel : n + ((d + 1 : Nat) : Int) = n + 1 + d := by omega
      rw [hlevel, render, List.append_assoc, List.prefix_append_right_inj]
      exact ih
  | @member n front node back before d part h ih =>
      have hmember : opened n (render mode n (.indented front)).text ++ (render mode n node).text =
          joinIndented n ((renderAll mode n (front ++ [node])).map Rendered.text) := by
        simp [render, renderAll_eq_map, joinIndented_concat]
      have hall : (render mode n (.indented (front ++ node :: back))).text = joinIndented n
          ((renderAll mode n (front ++ [node])).map Rendered.text ++
            (renderAll mode n back).map Rendered.text) := by
        simp [render, renderAll_eq_map]
      rw [List.append_assoc, hall]
      refine List.IsPrefix.trans ?_ (prefix_joinIndented_append n _ _)
      rw [← hmember, List.prefix_append_right_inj]
      exact ih

/-- Every line that begins in an indented part of a text begins with its tabs. -/
theorem Indented.tabs_prefix_of_isLine {n : Int} {head content after line : Text} {start : Nat}
    (h : Indented n content) (hline : IsLine (head ++ content ++ after) start line)
    (hle : head.length ≤ start) (hlt : start < (head ++ content).length) : tabs n <+: line := by
  obtain ⟨before, rest, hin, rfl⟩ := hline.exists_lineIn
  -- What stands before the line ends within the part, with a line break or at its beginning.
  obtain ⟨x, rfl⟩ : head <+: before := by
    have hhead : head <+: head ++ content ++ after := by simp
    have hbefore : before <+: head ++ content ++ after := by simp [hin.text_eq]
    exact List.prefix_of_prefix_length_le hhead hbefore hle
  have hsplit : content ++ after = x ++ (line ++ rest) := by
    have htext := hin.text_eq
    rw [List.append_assoc, List.append_assoc] at htext
    exact List.append_cancel_left htext
  obtain ⟨y, rfl⟩ : x <+: content := by
    have hx : x <+: content ++ after := by simp [hsplit]
    apply List.prefix_of_prefix_length_le hx (List.prefix_append content after)
    simp only [List.length_append] at hlt
    omega
  have hy : y ++ after = line ++ rest := by
    rw [List.append_assoc] at hsplit
    exact List.append_cancel_left hsplit
  have hne : y ≠ [] := by
    rintro rfl
    simp at hlt
  have htabs : tabs n <+: y := by
    rcases List.eq_nil_or_concat' x with rfl | ⟨u, c, rfl⟩
    · exact h.first.resolve_left hne
    · rcases hin.begins with hbegins | ⟨v, hbegins⟩
      · simp at hbegins
      · rw [← List.append_assoc] at hbegins
        have hc : c = '\n' := by simpa using (List.append_inj' hbegins rfl).2
        exact h.others u y (by simp [hc]) hne
  apply tabs_prefix_of_append _ hin.ends
  rw [← hy]
  exact htabs.trans (List.prefix_append y after)

end Places

section Lines

variable {mode : LinkMode}

theorem exists_elementText_block (mode : LinkMode) (n : Int) (text : Text) (style : Style) :
    ∃ x, elementText mode n text .block style = x ++ ['\n'] :=
  ⟨_, rfl⟩

/-- How the lines of a tree are indented when it is written under `n` levels. -/
structure Contained (mode : LinkMode) (n : Int) (tree : Node) : Prop where
  /-- Every line of a collection begins with `n` tabs. -/
  collection : ∀ nodes, tree = .indented nodes →
    ∀ start line, IsLine (render mode n tree).text start line → tabs n <+: line
  /-- Every line of an element but the first begins with `n` tabs. -/
  element : ∀ text flow style child, tree = .element text flow style child →
    ∀ start line, IsLine (render mode n tree).text start line → 0 < start → tabs n <+: line
  /-- What stands below an element with `d` elements above it is indented by one level more: each
  line that begins there has the tabs, and so has each line with a character of it when the element
  ends its own line. -/
  below : ∀ before d text flow style child,
    WrittenAt mode n tree before d (.element text flow style (some child)) →
    let head := before ++ elementText mode (n + d) text flow style
    let content := (render mode (n + d + 1) child).text
    head ++ content <+: (render mode n tree).text ∧
      ∀ start line, IsLine (render mode n tree).text start line →
        start < (head ++ content).length →
        head.length ≤ start ∨ (flow = .block ∧ head.length < start + line.length) →
        tabs (n + d + 1) <+: line

theorem IsOutline.tabs_prefix_of_written {tree child : Node} (htree : IsOutline tree) {n : Int}
    {before text line : Text} {d start : Nat} {flow : Flow} {style : Style}
    (h : WrittenAt mode n tree before d (.element text flow style (some child)))
    (hline : IsLine (render mode n tree).text start line)
    (hlt : start < (before ++ elementText mode (n + d) text flow style ++
      (render mode (n + d + 1) child).text).length)
    (hreach : (before ++ elementText mode (n + d) text flow style).length ≤ start ∨
      (flow = .block ∧
        (before ++ elementText mode (n + d) text flow style).length < start + line.length)) :
    tabs (n + d + 1) <+: line := by
  have hpre := h.isPrefix
  rw [render, ← List.append_assoc] at hpre
  have hbelow : Indented (n + d + 1) (render mode (n + d + 1) child).text := by
    cases h.isOutline htree with
    | item hstyle hnodes => exact (hnodes.indentsLines (n + d + 1)).2 _ rfl
  have hle : (before ++ elementText mode (n + d) text flow style).length ≤ start := by
    rcases hreach with hle | ⟨rfl, hreach⟩
    · exact hle
    · by_contra hstart
      obtain ⟨x, hx⟩ := exists_elementText_block mode (n + d) text style
      obtain ⟨outside, rest, hin, rfl⟩ := hline.exists_lineIn
      rw [hx, ← List.append_assoc] at hpre hreach hstart
      have hend := hin.length_le ((List.prefix_append ..).trans hpre)
      simp only [List.length_append, List.length_singleton] at hreach hstart hend
      omega
  obtain ⟨after, hafter⟩ := hpre
  rw [← hafter] at hline
  exact hbelow.tabs_prefix_of_isLine hline hle hlt

/-- Lines stay inside the levels of the elements above them. -/
theorem IsOutline.contained {tree : Node} (h : IsOutline tree) (mode : LinkMode) (n : Int) :
    Contained mode n tree := by
  refine ⟨?_, ?_, ?_⟩
  · rintro nodes rfl start line hline
    have hall : Indented n (render mode n (.indented nodes)).text := (h.indentsLines n).2 nodes rfl
    have hwhole : IsLine ([] ++ (render mode n (.indented nodes)).text ++ []) start line := by
      simpa using hline
    apply hall.tabs_prefix_of_isLine hwhole (Nat.zero_le start)
    obtain ⟨before, rest, hin, rfl⟩ := hline.exists_lineIn
    have hproper := List.length_pos_of_ne_nil hin.proper
    have htext := congrArg List.length hin.text_eq
    simp only [List.length_append, List.length_nil] at htext hproper ⊢
    omega
  · rintro text flow style child rfl start line hline hpos
    obtain ⟨before, rest, hin, rfl⟩ := hline.exists_lineIn
    rcases hin.begins with rfl | ⟨u, rfl⟩
    · simp at hpos
    · apply tabs_prefix_of_append _ hin.ends
      have hlines : IndentsLines n (render mode n (.element text flow style child)).text :=
        (h.indentsLines n).1
      exact hlines u (line ++ rest) (by simp [hin.text_eq]) hin.proper
  · intro before d text flow style child hwritten
    refine ⟨?_, fun start line hline hlt hreach => ?_⟩
    · have hpre := hwritten.isPrefix
      rw [render, ← List.append_assoc] at hpre
      exact hpre
    · exact h.tabs_prefix_of_written hwritten hline hlt hreach

/-- A list in a list, with line breaks inside its texts and in a link target. -/
def nestedList : Node :=
  .indented
    [.indented [.element [] .inline {} none],
      .element "* one\nmore\n".toList .block {} (some (.indented
        [.element "* two".toList .block { link := some "a\nb".toList } (some (.indented
          [.element "x\n\ny".toList .inline { indentation := 2 } (some (.indented
            [.element "\n".toList .inline {} none]))])),
          .element "three".toList .inline {} none]))]

theorem isOutline_nestedList : IsOutline nestedList := by
  have hinner : IsOutline (.indented [.element "\n".toList .inline {} none]) :=
    .collection (by simpa using .leaf (by decide))
  have hcode : IsOutline (.element "x\n\ny".toList .inline { indentation := 2 }
      (some (.indented [.element "\n".toList .inline {} none]))) :=
    .item (by decide) hinner
  refine .collection (List.forall_mem_cons.2 ⟨.collection (by simpa using .leaf (by decide)), ?_⟩)
  refine List.forall_mem_singleton.2 (.item (by decide) (.collection ?_))
  refine List.forall_mem_cons.2 ⟨.item (by decide) (.collection ?_), ?_⟩
  · exact List.forall_mem_singleton.2 hcode
  · exact List.forall_mem_singleton.2 (.leaf (by decide))

theorem nestedList_contained :
    IsOutline nestedList ∧ Contained .reference 1 nestedList ∧ Contained .inline 0 nestedList :=
  ⟨isOutline_nestedList, isOutline_nestedList.contained .reference 1,
    isOutline_nestedList.contained .inline 0⟩

end Lines

end Markup

end ApiAtlas
