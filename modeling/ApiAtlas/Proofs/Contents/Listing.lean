import ApiAtlas.Contents
import ApiAtlas.Proofs.Markup.Blocks
import ApiAtlas.Proofs.Sorting
import Mathlib.Data.List.Basic
import Mathlib.Data.List.TakeDrop

/-!
# The listing of the contents

**Input.** Entities, the least access level that is listed, where the pages are, and their format.

**Definitions.** `StablySorted` says that a list has the entities of another one by the labels of
their kinds, those of one label in the old order.  `targets` reads the links off the text of a
listing: they stand on the lines of its last block, each after a number in brackets.

**Results.**
* `StablySorted.unique`, `byKind_stablySorted`: there is one such list, and `byKind` makes it.
* `filter_byKind`: so sorting and leaving out hidden entities can change places.
* `markdown_eq`: the text of a listing ends with the block of its links.
* `targets_markdown`: the links of a listing are those of the visible entities in their order, one
  for each.
-/

namespace ApiAtlas

namespace Contents

open Markup

section Order

/-- Whether the kind of an entity has a label. -/
def hasLabel (l : Text) (e : Entity) : Bool :=
  e.kind.label == l

/-- Whether a list has the entities of another one by the labels of their kinds, those of one label
in the old order. -/
structure StablySorted (es sorted : List Entity) : Prop where
  ordered : sorted.Pairwise fun a b => a.kind.label.atMost b.kind.label = true
  stable : ∀ l, sorted.filter (hasLabel l) = es.filter (hasLabel l)

variable {as bs es : List Entity}

/-- There is one stably sorted list. -/
theorem StablySorted.unique (ha : StablySorted es as) (hb : StablySorted es bs) : as = bs := by
  refine Sorting.eq_of_classes_eq (fun e => e.kind.label) ?_ ha.ordered hb.ordered ?_
  · intro a _ b _ hab hba
    exact Text.atMost_antisymm hab hba
  · intro l
    exact (ha.stable l).trans (hb.stable l).symm

/-- Leaving entities out keeps a list stably sorted. -/
theorem StablySorted.filter (h : StablySorted es as) (q : Entity → Bool) :
    StablySorted (es.filter q) (as.filter q) := by
  constructor
  · exact h.ordered.filter q
  · intro l
    rw [List.filter_comm, h.stable l, List.filter_comm]

theorem byKind_stablySorted (es : List Entity) : StablySorted es (byKind es) := by
  have htrans : ∀ a b c : Entity, a.kind.label.atMost b.kind.label = true →
      b.kind.label.atMost c.kind.label = true → a.kind.label.atMost c.kind.label = true :=
    fun a b c => Text.atMost_trans _ _ _
  have htotal : ∀ a b : Entity,
      (a.kind.label.atMost b.kind.label || b.kind.label.atMost a.kind.label) = true :=
    fun a b => Text.atMost_total _ _
  constructor
  · exact List.pairwise_mergeSort htrans htotal es
  · intro l
    refine Sorting.filter_mergeSort (fun e => e.kind.label) htrans htotal ?_ es l
    intro a b hab
    rw [hab]
    exact Text.atMost_refl _

/-- Sorting and leaving entities out can change places. -/
theorem filter_byKind (q : Entity → Bool) (es : List Entity) :
    (byKind es).filter q = byKind (es.filter q) :=
  ((byKind_stablySorted es).filter q).unique (byKind_stablySorted (es.filter q))

/-- The listed entities are the visible ones in their order, one entry for each. -/
theorem map_fst_entries (minimum : Access) (es : List Entity) :
    (entries minimum es).map Prod.fst = byKind (es.filter fun e => minimum ≤ e.access) := by
  rw [← filter_byKind, entries]
  conv_rhs => rw [← List.zipIdx_map_fst 0 (byKind es)]
  rw [List.filter_map]
  rfl

end Order

section Targets

/-- What stands on a line after a number in brackets and a colon. -/
def targetOn (line : Text) : Text :=
  (line.dropWhile (· != ']')).drop 2

/-- The last block of lines that are not empty. -/
def lastBlock (ls : List Text) : List Text :=
  ((ls.reverse.dropWhile List.isEmpty).takeWhile fun l => !l.isEmpty).reverse

/-- The links of a listing: those on the lines of the last block of its text. -/
def targets (listing : Text) : List Text :=
  (lastBlock (Text.pieces '\n' listing)).map targetOn

theorem lastBlock_eq {block : List Text} (hne : block ≠ []) (h : ∀ l ∈ block, l ≠ [])
    (above : List Text) (n : Nat) :
    lastBlock (above ++ [] :: (block ++ List.replicate n [])) = block := by
  have hfull : ∀ l ∈ block.reverse, (!l.isEmpty) = true := by
    intro l hl
    simp [h l (List.mem_reverse.1 hl)]
  have hdrop : (block.reverse ++ [] :: above.reverse).dropWhile List.isEmpty =
      block.reverse ++ [] :: above.reverse := by
    obtain ⟨l, ls, hls⟩ := List.exists_cons_of_ne_nil (mt List.reverse_eq_nil_iff.1 hne)
    have hl := hfull l (by simp [hls])
    rw [hls, List.cons_append, List.dropWhile_cons_of_neg (by simpa using hl)]
  have hlines : (above ++ [] :: (block ++ List.replicate n [])).reverse =
      List.replicate n [] ++ (block.reverse ++ [] :: above.reverse) := by
    simp
  rw [lastBlock, hlines, List.dropWhile_append_of_pos (by simp), hdrop,
    List.takeWhile_append_of_pos hfull]
  simp

variable (layout : Layout) (format : Format)

theorem not_mem_ofNat {c : Char} (hc : c.isDigit = false) (n : Nat) : c ∉ Text.ofNat n := by
  intro h
  rw [Nat.isDigit_of_mem_toDigits (by decide) (by decide) h] at hc
  simp at hc

theorem break_not_mem_slug (t : Text) : '\n' ∉ t.slug := by
  intro h
  rcases Text.mem_slug h with hword | hhyphen
  · exact absurd hword (by decide +kernel)
  · exact absurd hhyphen (by decide)

/-- A link stays on its line. -/
theorem break_not_mem_link (e : Entity) : '\n' ∉ e.link layout format := by
  cases layout with
  | singlePage =>
      simp [Entity.link, Profile.link, Text.lowerSlug, break_not_mem_slug]
  | multiPage =>
      cases format with
      | markdown =>
          simp [Entity.link, Profile.link, Text.lowerSlug, break_not_mem_slug, Format.fileExtension]
      | html =>
          simp [Entity.link, Profile.link, Text.lowerSlug, break_not_mem_slug, Format.fileExtension]

theorem break_not_mem_reference (entry : Entity × Nat) : '\n' ∉ reference layout format entry := by
  have hnumber : '\n' ∉ Text.ofNat entry.2 := not_mem_ofNat (by decide) entry.2
  simp [reference, hnumber, break_not_mem_link]

theorem targetOn_reference (entry : Entity × Nat) :
    targetOn (reference layout format entry) = entry.1.link layout format := by
  have hnumber : ∀ c ∈ '[' :: Text.ofNat entry.2, (c != ']') = true := by
    intro c hc
    rcases List.mem_cons.1 hc with rfl | hc
    · decide
    · rw [bne_iff_ne]
      rintro rfl
      exact not_mem_ofNat (by decide) entry.2 hc
  have hline : reference layout format entry =
      ('[' :: Text.ofNat entry.2) ++ ']' :: ':' :: entry.1.link layout format := by
    simp [reference]
  rw [targetOn, hline, List.dropWhile_append_of_pos hnumber]
  simp

/-- Every part of a listing above its links is a plain block. -/
theorem isPlainBlock_of_mem_lines {current : Text} {listed : List (Entity × Nat)} {n : Node}
    (h : n ∈ lines current listed) : IsPlainBlock n := by
  induction listed generalizing current with
  | nil =>
      simp [lines] at h
  | cons entry rest ih =>
      rw [lines, List.mem_append] at h
      rcases h with h | h
      · split at h
        · rw [List.mem_singleton.1 h]
          exact isPlainBlock_bullet _
        · rcases List.mem_cons.1 h with rfl | h
          · exact isPlainBlock_heading _ _
          · rw [List.mem_singleton.1 h]
            exact isPlainBlock_bullet _
      · exact ih h

/-- Every part of a listing is a plain block. -/
theorem isPlainBlock_of_mem_parts {listed : List (Entity × Nat)} {n : Node}
    (h : n ∈ lines [] listed ++ references layout format listed) : IsPlainBlock n := by
  rcases List.mem_append.1 h with h | h
  · exact isPlainBlock_of_mem_lines h
  · rw [references] at h
    split at h
    · simp at h
    · rw [List.mem_singleton.1 h]
      exact ⟨_, render_paragraph _⟩

theorem lines_ne_nil (current : Text) {listed : List (Entity × Nat)} (h : listed ≠ []) :
    lines current listed ≠ [] := by
  cases listed with
  | nil =>
      exact absurd rfl h
  | cons entry rest =>
      rw [lines]
      split
      · simp
      · simp

theorem exists_lines_text {listed : List (Entity × Nat)} (h : listed ≠ []) :
    ∃ body, joinSiblings ((lines [] listed).map fun n => (render .reference 0 n).text) =
      body ++ ['\n', '\n'] := by
  obtain hnil | ⟨init, last, hlines⟩ := List.eq_nil_or_concat (lines [] listed)
  · exact absurd hnil (lines_ne_nil [] h)
  · rw [List.concat_eq_append] at hlines
    have hlast : IsPlainBlock last := by
      apply isPlainBlock_of_mem_lines
      rw [hlines]
      exact List.mem_append_right init (List.mem_singleton_self last)
    obtain ⟨t, ht⟩ := hlast
    rw [hlines, List.map_append, List.map_singleton, ht]
    obtain ⟨body, hbody⟩ := exists_joinSiblings
      (init.map fun n => (render .reference 0 n).text) (t ++ ['\n'])
    refine ⟨body ++ t, ?_⟩
    rw [hbody]
    simp

theorem startsItem_references {listed : List (Entity × Nat)} (h : listed ≠ []) (rest : Text) :
    startsItem (Text.join ['\n'] (listed.map (reference layout format)) ++ rest) = false := by
  cases listed with
  | nil =>
      exact absurd rfl h
  | cons entry listed =>
      cases listed with
      | nil => exact startsItem_of_not_digit (by decide) (by decide) _
      | cons next listed => exact startsItem_of_not_digit (by decide) (by decide) _

/-- The text of a listing ends with the block of its links, after an empty line. -/
theorem markdown_eq {minimum : Access} {es : List Entity} (h : entries minimum es ≠ []) :
    ∃ body, markdown layout format minimum es =
      body ++ '\n' :: ('\n' :: (Text.join ['\n']
        ((entries minimum es).map (reference layout format)) ++ ['\n', '\n', '\n'])) := by
  obtain ⟨body, hbody⟩ := exists_lines_text h
  refine ⟨body, ?_⟩
  rw [markdown, finalize_document fun n hn => (isPlainBlock_of_mem_parts layout format hn).links_eq,
    references, if_neg (by simpa using h), List.map_append, List.map_singleton, render_paragraph,
    joinSiblings_concat _ (startsItem_references layout format h _), hbody]
  simp

/-- The links of a listing are those of the visible entities in their order, one for each. -/
theorem targets_markdown (minimum : Access) (es : List Entity) :
    targets (markdown layout format minimum es) =
      (byKind (es.filter fun e => minimum ≤ e.access)).map fun e => e.link layout format := by
  rw [← map_fst_entries, List.map_map]
  by_cases h : entries minimum es = []
  · have htext : markdown layout format minimum es = ['\n'] := by
      rw [markdown, h]
      rfl
    rw [htext, h]
    rfl
  · obtain ⟨body, hbody⟩ := markdown_eq layout format h
    have hne : (entries minimum es).map (reference layout format) ≠ [] := by simpa using h
    have hbreak : ∀ l ∈ (entries minimum es).map (reference layout format), '\n' ∉ l := by
      intro l hl
      obtain ⟨entry, -, rfl⟩ := List.mem_map.1 hl
      exact break_not_mem_reference layout format entry
    have hfull : ∀ l ∈ (entries minimum es).map (reference layout format), l ≠ [] := by
      intro l hl
      obtain ⟨entry, -, rfl⟩ := List.mem_map.1 hl
      simp [reference]
    -- A title may have line breaks and anything else, so nothing is said about the lines above.
    have hpieces : Text.pieces '\n' (markdown layout format minimum es) =
        Text.pieces '\n' body ++
          [] :: ((entries minimum es).map (reference layout format) ++ List.replicate 3 []) := by
      rw [hbody, Text.pieces_append_cons, ← List.nil_append ('\n' :: _), Text.pieces_append_cons,
        Text.pieces_append_cons, Text.pieces_join hne hbreak]
      rfl
    rw [targets, hpieces, lastBlock_eq hne hfull, List.map_map]
    exact List.map_congr_left fun entry _ => targetOn_reference layout format entry

end Targets

end Contents

end ApiAtlas
