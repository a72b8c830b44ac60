import ApiAtlas.Proofs.Contents.Rows
import ApiAtlas.Store

/-!
# The sections of a listing

**Input.** Entities of any kinds, the least access level that is listed, where the pages are, and
their format.

**Definitions.** A `Section` is a heading with rows below it; `sections` gathers rows in a row that
have the same heading.  `InSections` says that a listing has one section for each of its headings.

**Results.**
* `bullets_eq_sections`: a listing is the text of its sections, apart from the heading above the first
  one, which may be there already.
* `nodup_headings`: no heading comes twice when rows with the same heading have no other one between
  them.
* `markdown_listing`: the exact text of a listing, and its sections for entities of the index.
-/

namespace ApiAtlas

namespace Contents

/-- A heading of a listing with the numbered rows below it. -/
structure Section where
  heading : Text
  rows : List (Row × Nat)

section Defs

/-- A heading with the empty line after it. -/
def headingText (heading : Text) : Text :=
  "#### ".toList ++ heading ++ "\n\n".toList

/-- The heading where it is a new one; `current` is the heading that stands above. -/
def opening (current heading : Text) : Text :=
  if heading = current then [] else headingText heading

/-- The lines of a section below its heading, with an empty line after them. -/
def Section.body (s : Section) : Text :=
  (s.rows.flatMap fun (row, number) => row.bullet number ++ ['\n']) ++ ['\n']

/-- The lines of a section. -/
def Section.text (s : Section) : Text :=
  headingText s.heading ++ s.body

/-- Rows in a row that have the same heading, under that heading. -/
def sections : List (Row × Nat) → List Section
  | [] => []
  | entry :: rest =>
    match sections rest with
    | [] => [⟨entry.1.heading, [entry]⟩]
    | s :: ss =>
      if s.heading = entry.1.heading then ⟨s.heading, entry :: s.rows⟩ :: ss
      else ⟨entry.1.heading, [entry]⟩ :: s :: ss

/-- The text of sections; `current` is the heading that stands above. -/
def sectionsText (current : Text) : List Section → Text
  | [] => []
  | s :: ss => opening current s.heading ++ s.body ++ ss.flatMap Section.text

/-- Whether the lines of numbered rows are these sections, one for each heading. -/
structure InSections (rows : List (Row × Nat)) (ss : List Section) : Prop where
  complete : ss.flatMap Section.rows = rows
  uniform : ∀ s ∈ ss, s.rows ≠ [] ∧ ∀ entry ∈ s.rows, entry.1.heading = s.heading
  distinct : (ss.map Section.heading).Nodup
  written : bullets [] rows = ss.flatMap Section.text

end Defs

section Gathering

theorem sections_singleton (entry : Row × Nat) :
    sections [entry] = [⟨entry.1.heading, [entry]⟩] := rfl

variable {entry : Row × Nat} {rest : List (Row × Nat)} {s : Section} {ss : List Section}

theorem sections_cons_of_eq (h : sections rest = s :: ss) (hs : s.heading = entry.1.heading) :
    sections (entry :: rest) = ⟨s.heading, entry :: s.rows⟩ :: ss := by
  rw [sections, h]
  exact if_pos hs

theorem sections_cons_of_ne (h : sections rest = s :: ss) (hs : ¬ s.heading = entry.1.heading) :
    sections (entry :: rest) = ⟨entry.1.heading, [entry]⟩ :: s :: ss := by
  rw [sections, h]
  exact if_neg hs

/-- The first section has the heading of the first row. -/
theorem exists_sections_cons (entry : Row × Nat) (rest : List (Row × Nat)) :
    ∃ s ss, sections (entry :: rest) = s :: ss ∧ s.heading = entry.1.heading := by
  cases hss : sections rest with
  | nil =>
      rw [sections, hss]
      exact ⟨_, _, rfl, rfl⟩
  | cons s ss =>
      by_cases hs : s.heading = entry.1.heading
      · exact ⟨_, _, sections_cons_of_eq hss hs, hs⟩
      · exact ⟨_, _, sections_cons_of_ne hss hs, rfl⟩

theorem flatMap_rows_sections (rows : List (Row × Nat)) :
    (sections rows).flatMap Section.rows = rows := by
  induction rows with
  | nil => rfl
  | cons entry rest ih =>
      cases rest with
      | nil => rfl
      | cons next rest =>
          obtain ⟨s, ss, hss, -⟩ := exists_sections_cons next rest
          rw [hss, List.flatMap_cons] at ih
          by_cases hs : s.heading = entry.1.heading
          · rw [sections_cons_of_eq hss hs, List.flatMap_cons, List.cons_append, ih]
          · rw [sections_cons_of_ne hss hs, List.flatMap_cons, List.flatMap_cons, ih]
            rfl

theorem uniform_sections {rows : List (Row × Nat)} :
    ∀ s ∈ sections rows, s.rows ≠ [] ∧ ∀ entry ∈ s.rows, entry.1.heading = s.heading := by
  induction rows with
  | nil => simp [sections]
  | cons entry rest ih =>
      have hfirst : ([entry] : List (Row × Nat)) ≠ [] ∧
          ∀ e ∈ [entry], e.1.heading = entry.1.heading :=
        ⟨by simp, List.forall_mem_singleton.2 rfl⟩
      cases rest with
      | nil => exact List.forall_mem_singleton.2 hfirst
      | cons next rest =>
          obtain ⟨s, ss, hss, -⟩ := exists_sections_cons next rest
          rw [hss] at ih
          obtain ⟨hs, hrest⟩ := List.forall_mem_cons.1 ih
          by_cases hsame : s.heading = entry.1.heading
          · rw [sections_cons_of_eq hss hsame]
            refine List.forall_mem_cons.2 ⟨⟨by simp, ?_⟩, hrest⟩
            exact List.forall_mem_cons.2 ⟨hsame.symm, hs.2⟩
          · rw [sections_cons_of_ne hss hsame]
            exact List.forall_mem_cons.2 ⟨hfirst, ih⟩

theorem exists_row_of_mem_headings {rows : List (Row × Nat)} {heading : Text}
    (h : heading ∈ (sections rows).map Section.heading) :
    ∃ entry ∈ rows, entry.1.heading = heading := by
  obtain ⟨s, hs, rfl⟩ := List.mem_map.1 h
  obtain ⟨hne, hall⟩ := uniform_sections s hs
  obtain ⟨entry, he⟩ := List.exists_mem_of_ne_nil _ hne
  refine ⟨entry, ?_, hall entry he⟩
  rw [← flatMap_rows_sections rows]
  exact List.mem_flatMap.2 ⟨s, hs, he⟩

/-- A heading comes once when rows with the same heading have no other one between them. -/
theorem nodup_headings {rows : List (Row × Nat)}
    (h : ∀ a b c, List.Sublist [a, b, c] rows →
      a.1.heading = c.1.heading → b.1.heading = a.1.heading) :
    ((sections rows).map Section.heading).Nodup := by
  induction rows with
  | nil => simp [sections]
  | cons entry rest ih =>
      have hrest := ih fun a b c hsub => h a b c (hsub.cons entry)
      cases rest with
      | nil => simp [sections_singleton]
      | cons next rest =>
          obtain ⟨s, ss, hss, hs⟩ := exists_sections_cons next rest
          by_cases hsame : s.heading = entry.1.heading
          · rw [hss] at hrest
            rw [sections_cons_of_eq hss hsame]
            exact hrest
          · -- A later row under the heading of the first one would enclose the next row.
            have hnew : entry.1.heading ∉ (sections (next :: rest)).map Section.heading := by
              intro hmem
              obtain ⟨later, hlater, hheading⟩ := exists_row_of_mem_headings hmem
              rcases List.mem_cons.1 hlater with rfl | hlater
              · exact hsame (hs.trans hheading)
              · have hsub : List.Sublist [entry, next, later] (entry :: next :: rest) :=
                  ((List.singleton_sublist.2 hlater).cons_cons next).cons_cons entry
                exact hsame (hs.trans (h entry next later hsub hheading.symm))
            rw [hss] at hrest hnew
            rw [sections_cons_of_ne hss hsame]
            exact List.nodup_cons.2 ⟨hnew, hrest⟩

theorem bullets_cons (current : Text) (entry : Row × Nat) (rest : List (Row × Nat)) :
    bullets current (entry :: rest) =
      opening current entry.1.heading ++ entry.1.bullet entry.2 ++
        (if rest.head?.any fun next => next.1.heading = entry.1.heading then ['\n']
          else ['\n', '\n']) ++
        bullets entry.1.heading rest := by
  rw [bullets]
  rfl

theorem opening_of_eq {current heading : Text} (h : heading = current) :
    opening current heading = [] :=
  if_pos h

theorem opening_of_ne {current heading : Text} (h : ¬ heading = current) :
    opening current heading = headingText heading :=
  if_neg h

theorem body_nil (heading : Text) : Section.body ⟨heading, []⟩ = ['\n'] := rfl

theorem body_cons (heading : Text) (entry : Row × Nat) (rows : List (Row × Nat)) :
    Section.body ⟨heading, entry :: rows⟩ =
      entry.1.bullet entry.2 ++ '\n' :: Section.body ⟨heading, rows⟩ := by
  simp only [Section.body, List.flatMap_cons, List.append_assoc, List.cons_append, List.nil_append]

/-- The lines of rows are those of their sections. -/
theorem bullets_eq_sections (current : Text) (rows : List (Row × Nat)) :
    bullets current rows = sectionsText current (sections rows) := by
  induction rows generalizing current with
  | nil => rfl
  | cons entry rest ih =>
      rw [bullets_cons, ih]
      cases rest with
      | nil =>
          rw [sections_singleton, sectionsText, body_cons, body_nil]
          simp [sections, sectionsText]
      | cons next rest =>
          obtain ⟨s, ss, hss, hs⟩ := exists_sections_cons next rest
          rw [hss, List.head?_cons, Option.any_some, ← hs, sectionsText]
          by_cases hsame : s.heading = entry.1.heading
          · rw [if_pos (by simpa using hsame), opening_of_eq hsame, sections_cons_of_eq hss hsame,
              sectionsText, body_cons, hsame]
            simp only [List.append_assoc, List.nil_append, List.cons_append]
            rfl
          · rw [if_neg (by simpa using hsame), opening_of_ne hsame, sections_cons_of_ne hss hsame,
              sectionsText, body_cons, body_nil, List.flatMap_cons, Section.text]
            simp

end Gathering

section Index

variable (layout : Layout) (format : Format)

/-- The headings of the closed set of kinds are different and not empty. -/
theorem title_label_inj {j k : DeclKind} (h : j.label.title = k.label.title) : j = k := by
  have hall : ∀ j ∈ DeclKind.all, ∀ k ∈ DeclKind.all, j.label.title = k.label.title → j = k := by
    decide +kernel
  exact hall j (DeclKind.mem_all j) k (DeclKind.mem_all k) h

theorem title_label_ne_nil (k : DeclKind) : k.label.title ≠ [] := by
  have hall : ∀ k ∈ DeclKind.all, k.label.title ≠ [] := by decide +kernel
  exact hall k (DeclKind.mem_all k)

theorem exists_kind_of_mem_topLevelIndex {s : Store} {e : Entity} (h : e ∈ s.topLevelIndex) :
    ∃ k, e.kind = .decl k := by
  obtain ⟨k, -, hk⟩ := List.mem_flatMap.1 h
  refine ⟨k, ?_⟩
  simpa [Store.indexOf, Store.search, Store.isMatch] using (List.mem_filter.1 hk).2

/-- The entries of a listing are in the order of the labels of their kinds. -/
theorem pairwise_entries (minimum : Access) (es : List Entity) :
    (entries minimum es).Pairwise fun a b => a.1.kind.label.atMost b.1.kind.label = true := by
  have hall : (byKind es).zipIdx.Pairwise
      fun a b => a.1.kind.label.atMost b.1.kind.label = true := by
    have hsorted := (byKind_stablySorted es).ordered
    rw [← List.zipIdx_map_fst 0 (byKind es), List.pairwise_map] at hsorted
    exact hsorted
  exact hall.filter _

theorem kind_of_mem_entries {minimum : Access} {es : List Entity}
    (h : ∀ e ∈ es, ∃ k, e.kind = .decl k) {entry : Entity × Nat} (he : entry ∈ entries minimum es) :
    ∃ k, entry.1.kind = .decl k := by
  have hmem : entry.1 ∈ (entries minimum es).map Prod.fst := List.mem_map_of_mem he
  rw [map_fst_entries] at hmem
  exact h _ (List.mem_filter.1 ((byKind_perm _).mem_iff.1 hmem)).1

/-- Between two entities of the closed set that have the same heading there are only entities with
that heading. -/
theorem groupTitle_between {minimum : Access} {es : List Entity}
    (h : ∀ e ∈ es, ∃ k, e.kind = .decl k) {x y z : Entity × Nat}
    (hsub : List.Sublist [x, y, z] (entries minimum es)) (hxz : groupTitle x.1 = groupTitle z.1) :
    groupTitle y.1 = groupTitle x.1 := by
  obtain ⟨j, hj⟩ := kind_of_mem_entries h (hsub.subset (by simp : x ∈ [x, y, z]))
  obtain ⟨k, hk⟩ := kind_of_mem_entries h (hsub.subset (by simp : z ∈ [x, y, z]))
  have hlabel : x.1.kind.label = z.1.kind.label := by
    rw [groupTitle, groupTitle, hj, hk] at hxz
    rw [hj, hk, title_label_inj hxz]
  have hsorted := (pairwise_entries minimum es).sublist hsub
  obtain ⟨hx, hyz⟩ := List.pairwise_cons.1 hsorted
  have hxy : x.1.kind.label.atMost y.1.kind.label = true := hx y (by simp)
  have hyx : y.1.kind.label.atMost x.1.kind.label = true := by
    rw [hlabel]
    exact (List.pairwise_cons.1 hyz).1 z (by simp)
  rw [groupTitle, groupTitle, Text.atMost_antisymm hyx hxy]

/-- Entities of the closed set of kinds are listed with each heading once. -/
theorem inSections_sections {minimum : Access} {es : List Entity}
    (h : ∀ e ∈ es, ∃ k, e.kind = .decl k) :
    InSections ((entries minimum es).map (rowed layout format))
      (sections ((entries minimum es).map (rowed layout format))) := by
  refine ⟨flatMap_rows_sections _, uniform_sections, nodup_headings ?_, ?_⟩
  · intro a b c hsub hac
    obtain ⟨triple, htriple, hmap⟩ := List.sublist_map_iff.1 hsub
    obtain ⟨x, y, z, rfl⟩ : ∃ x y z, triple = [x, y, z] := by
      rw [← List.length_eq_three, ← List.length_map, ← hmap]
      rfl
    obtain ⟨rfl, rfl, rfl⟩ : a = rowed layout format x ∧ b = rowed layout format y ∧
        c = rowed layout format z := by
      simpa using hmap
    exact groupTitle_between h htriple hac
  · -- No heading of the closed set is empty, so the first one is written too.
    rw [bullets_eq_sections]
    cases hlisted : entries minimum es with
    | nil => rfl
    | cons entry rest =>
        obtain ⟨k, hk⟩ := kind_of_mem_entries h (hlisted ▸ List.mem_cons_self ..)
        obtain ⟨s, ss, hss, hs⟩ := exists_sections_cons (rowed layout format entry)
          (rest.map (rowed layout format))
        have hnew : ¬ s.heading = [] := by
          rw [hs]
          change ¬ entry.1.kind.label.title = []
          rw [hk]
          exact title_label_ne_nil k
        rw [List.map_cons, hss, sectionsText, opening_of_ne hnew, List.flatMap_cons, Section.text]

/-- The text of a listing: the visible entities in the order of their kinds, each on a line under its
number, with a heading where a group begins and an empty line where it ends, and then their links
under the same numbers.  Entities of the index stand in one section for each heading. -/
theorem markdown_listing (minimum : Access) (es : List Entity) :
    let visible := (byKind es).zipIdx.filter fun entry => minimum ≤ entry.1.access
    let rows := visible.map fun entry => (rowOf layout format entry.1, entry.2)
    StablySorted es (byKind es) ∧
      markdown layout format minimum es = bullets [] rows ++ definitions rows ++ ['\n'] ∧
      ∀ s : Store, (∀ e ∈ es, e ∈ s.topLevelIndex) → ∃ ss, InSections rows ss := by
  intro visible rows
  refine ⟨byKind_stablySorted es, ?_, fun s hes => ?_⟩
  · rw [markdown_eq_text, text, List.zip_map']
    rfl
  · have hkind : ∀ e ∈ es, ∃ k, e.kind = .decl k :=
      fun e he => exists_kind_of_mem_topLevelIndex (hes e he)
    exact ⟨sections rows, inSections_sections layout format hkind⟩

end Index

end Contents

end ApiAtlas
