import ApiAtlas.Proofs.Contents.Listing

/-!
# The text of a listing, row by row

**Input.** What a listing says of each entity, and the numbers that refer to the links.

**Definitions.** A `Row` has the heading of a group, a title and a link.  `text` writes rows with
their numbers: a line for each of them, with a heading where a group begins and an empty line where
it ends, and then the links under the same numbers.

**Results.**
* `markdown_eq_text`: this is how a listing is written.
* `pairwise_numbers`: the numbers of a listing increase.
-/

namespace ApiAtlas

namespace Contents

open Markup

/-- What a listing says of an entity. -/
structure Row where
  /-- The heading of its group. -/
  heading : Text
  /-- Its title. -/
  title : Text
  /-- The link to its page. -/
  target : Text
deriving DecidableEq

section Defs

/-- The row of an entity. -/
def rowOf (layout : Layout) (format : Format) (e : Entity) : Row :=
  ⟨groupTitle e, e.title, e.link layout format⟩

/-- The line of a row: its title under its number. -/
def Row.bullet (row : Row) (number : Nat) : Text :=
  "* [".toList ++ row.title ++ "][".toList ++ Text.ofNat number ++ [']']

/-- The link of a row under its number. -/
def Row.definition (row : Row) (number : Nat) : Text :=
  '[' :: Text.ofNat number ++ "]:".toList ++ row.target

/-- The lines of rows; `current` is the heading that stands above.  A group begins with its heading
and ends with an empty line. -/
def bullets (current : Text) : List (Row × Nat) → Text
  | [] => []
  | (row, number) :: rest =>
    (if row.heading = current then [] else "#### ".toList ++ row.heading ++ "\n\n".toList) ++
      row.bullet number ++
      (if rest.head?.any fun next => next.1.heading = row.heading then ['\n'] else ['\n', '\n']) ++
      bullets row.heading rest

/-- The links of rows, with an empty line after them. -/
def definitions : List (Row × Nat) → Text
  | [] => []
  | rows => (rows.flatMap fun (row, number) => row.definition number ++ ['\n']) ++ ['\n']

/-- The text of rows with their numbers. -/
def text (rows : List Row) (numbers : List Nat) : Text :=
  bullets [] (rows.zip numbers) ++ definitions (rows.zip numbers) ++ ['\n']

end Defs

section Lines

/-- The text of a node at the top level. -/
def nodeText (n : Node) : Text :=
  (render .reference 0 n).text

theorem nodeText_heading (t : Text) : nodeText (heading 4 t) = "#### ".toList ++ t ++ ['\n'] :=
  congrArg Rendered.text (render_paragraph _)

theorem nodeText_bullet (t : Text) : nodeText (bullet t [] 0) = "* ".toList ++ t ++ ['\n'] :=
  congrArg Rendered.text (render_bullet t [])

theorem startsItem_heading (t : Text) : startsItem (nodeText (heading 4 t)) = false := by
  rw [nodeText_heading]
  exact startsItem_of_not_digit (by decide) (by decide) _

theorem startsItem_bullet (t : Text) : startsItem (nodeText (bullet t [] 0)) = true := by
  rw [nodeText_bullet]
  rfl

variable (layout : Layout) (format : Format)

/-- The row of a numbered entity, with its number. -/
def rowed (entry : Entity × Nat) : Row × Nat :=
  (rowOf layout format entry.1, entry.2)

/-- A line keeps its own line break; whether an empty line follows depends on the next sibling. -/
theorem siblingText_line (entry : Entity × Nat) (ts : List Text) :
    siblingText (nodeText (line entry) :: ts) =
      (rowOf layout format entry.1).bullet entry.2 ++
        (if ts.head?.any startsItem then ['\n'] else ['\n', '\n']) ++ siblingText ts := by
  have htext : nodeText (line entry) = (rowOf layout format entry.1).bullet entry.2 ++ ['\n'] := by
    rw [line, nodeText_bullet]
    rfl
  have hstrip : ((rowOf layout format entry.1).bullet entry.2 ++ ['\n']).stripEnd =
      (rowOf layout format entry.1).bullet entry.2 := by
    obtain ⟨front, hfront⟩ : ∃ front, (rowOf layout format entry.1).bullet entry.2 =
        front ++ [']'] := ⟨_, rfl⟩
    rw [Text.stripEnd, Text.trimEnd_concat_of_pos (by decide), hfront,
      Text.trimEnd_concat_of_neg (by decide)]
  rw [siblingText, line, startsItem_bullet, ← line, Bool.true_and, htext]
  split
  · rw [hstrip, List.append_assoc]
    rfl
  · rw [List.append_assoc, List.append_assoc]
    rfl

/-- The next sibling of a line is a line when the next entity is of the same group. -/
theorem head?_lines {tail : List Text} (htail : tail.head?.any startsItem = false)
    (current : Text) (listed : List (Entity × Nat)) :
    ((lines current listed).map nodeText ++ tail).head?.any startsItem =
      (listed.map (rowed layout format)).head?.any fun next => next.1.heading = current := by
  cases listed with
  | nil =>
      rw [lines, List.map_nil, List.nil_append, htail]
      rfl
  | cons entry rest =>
      rw [lines]
      split
      · have hline : startsItem (nodeText (line entry)) = true := startsItem_bullet _
        simp [hline, rowed, rowOf, ‹groupTitle entry.1 = current›]
      · simp [startsItem_heading, rowed, rowOf, ‹¬ groupTitle entry.1 = current›]

theorem siblingText_lines {tail : List Text} (htail : tail.head?.any startsItem = false)
    (current : Text) (listed : List (Entity × Nat)) :
    siblingText ((lines current listed).map nodeText ++ tail) =
      bullets current (listed.map (rowed layout format)) ++ siblingText tail := by
  induction listed generalizing current with
  | nil =>
      rw [lines]
      rfl
  | cons entry rest ih =>
      have hline : siblingText (nodeText (line entry) ::
            ((lines (groupTitle entry.1) rest).map nodeText ++ tail)) = _ :=
        siblingText_line layout format entry _
      rw [head?_lines layout format htail, ih] at hline
      rw [lines, List.map_cons, bullets]
      split
      · rw [List.map_append, List.append_assoc]
        simp only [List.map_cons, List.map_nil, List.cons_append, List.nil_append, hline]
        simp only [rowed, rowOf, ‹groupTitle entry.1 = current›, if_true, List.append_assoc,
          List.nil_append]
      · rw [List.map_append, List.append_assoc]
        simp only [List.map_cons, List.map_nil, List.cons_append, List.nil_append]
        rw [siblingText_of_not_item (startsItem_heading _), hline, nodeText_heading]
        simp only [rowed, rowOf, ‹¬ groupTitle entry.1 = current›, if_false, List.append_assoc,
          List.cons_append, List.nil_append]
        rfl

end Lines

section Listings

variable (layout : Layout) (format : Format)

theorem join_definitions {listed : List (Entity × Nat)} (h : listed ≠ []) :
    Text.join ['\n'] (listed.map (reference layout format)) ++ ['\n', '\n'] =
      definitions (listed.map (rowed layout format)) := by
  cases listed with
  | nil =>
      exact absurd rfl h
  | cons entry rest =>
      rw [List.map_cons, List.map_cons, definitions]
      · induction rest generalizing entry with
        | nil =>
            simp [rowed, rowOf, reference, Row.definition]
        | cons next rest ih =>
            have hrest := ih next (by simp)
            rw [List.map_cons, Text.join, List.append_assoc, hrest]
            simp [rowed, rowOf, reference, Row.definition]
      · simp

/-- A listing is the text of the rows of the visible entities. -/
theorem markdown_eq_text (minimum : Access) (es : List Entity) :
    markdown layout format minimum es =
      text ((entries minimum es).map fun entry => rowOf layout format entry.1)
        ((entries minimum es).map Prod.snd) := by
  have hrows : ((entries minimum es).map fun entry => rowOf layout format entry.1).zip
      ((entries minimum es).map Prod.snd) = (entries minimum es).map (rowed layout format) :=
    List.zip_map'
  rw [markdown, finalize_document fun n hn => (isPlainBlock_of_mem_parts layout format hn).links_eq,
    joinSiblings_eq, text, hrows, List.map_append]
  change siblingText ((lines [] _).map nodeText ++ (references layout format _).map nodeText) ++ _ =
    _
  by_cases h : entries minimum es = []
  · rw [h]
    rfl
  · -- The block of the links is no list item, so the last line keeps the empty line after it.
    have hlinks : (references layout format (entries minimum es)).map nodeText =
        [Text.join ['\n'] ((entries minimum es).map (reference layout format)) ++ ['\n']] := by
      rw [references, if_neg (by simpa using h), List.map_singleton, nodeText, render_paragraph]
    have hitem := startsItem_references layout format h ['\n']
    rw [hlinks, siblingText_lines layout format (by simpa using hitem),
      siblingText_of_not_item hitem, ← join_definitions layout format h, siblingText]
    simp

/-- The numbers of a listing increase. -/
theorem pairwise_numbers (minimum : Access) (es : List Entity) :
    ((entries minimum es).map Prod.snd).Pairwise (· < ·) := by
  have hall : ((byKind es).zipIdx.map Prod.snd).Pairwise (· < ·) := by
    rw [List.zipIdx_map_snd]
    exact List.pairwise_lt_range'
  exact hall.sublist (List.filter_sublist.map Prod.snd)

end Listings

end Contents

end ApiAtlas
