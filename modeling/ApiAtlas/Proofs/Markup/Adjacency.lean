import ApiAtlas.Proofs.Markup.Siblings
import Mathlib.Data.List.Induction

/-!
# List items in a row

**Input.** Nodes that stand side by side, the indentation that they inherit, and how links are
written.

**Definitions.** `IsItem` says what a list item starts with.  `joined` writes texts side by side: at
each place a `segment` that depends on the text and on the next one only.  `KeptTogether` is what
holds of two list items in a row.

**Results.** `render_siblings_text`: siblings are written in this way.  All that was written so far
is trimmed when a list item follows a list item, but a list item has a character that is no blank, so
trimming never goes back to an earlier sibling.
-/

namespace ApiAtlas

namespace Text

theorem not_blank_of_isDigit {c : Char} (h : isDigit c = true) : isBlank c = false := by
  have hapart : ∀ d ∈ digitRanges, ∀ b ∈ blankRanges, d.2 < b.1 ∨ b.2 < d.1 := by decide
  obtain ⟨d, hd, hcd⟩ := List.any_eq_true.1 h
  rw [isBlank, Ranges.has, List.any_eq_false]
  intro b hb hcb
  simp only [Bool.and_eq_true, decide_eq_true_eq] at hcd hcb
  rcases hapart d hd b hb with hlt | hlt
  · omega
  · omega

end Text

namespace Markup

/-- Whether a text starts like a list item: with a star and a space, or with digits, a point and a
space. -/
def IsItem (t : Text) : Prop :=
  "* ".toList <+: t ∨
    ∃ digits : Text, digits ≠ [] ∧ (∀ c ∈ digits, Text.isDigit c = true) ∧
      digits ++ ". ".toList <+: t

theorem startsItem_of_digits {digits : Text} (hne : digits ≠ [])
    (h : ∀ c ∈ digits, Text.isDigit c = true) (t : Text) :
    startsItem (digits ++ '.' :: ' ' :: t) = true := by
  have hspan : (digits ++ '.' :: ' ' :: t).span Text.isDigit = (digits, '.' :: ' ' :: t) := by
    have hpoint : ¬ Text.isDigit '.' = true := by decide
    rw [List.span_eq_takeWhile_dropWhile, List.takeWhile_append_of_pos h,
      List.dropWhile_append_of_pos h, List.takeWhile_cons_of_neg hpoint,
      List.dropWhile_cons_of_neg hpoint, List.append_nil]
  obtain ⟨d, ds, rfl⟩ := List.exists_cons_of_ne_nil hne
  unfold startsItem
  rw [hspan]
  split
  · rfl
  · rfl

theorem startsItem_iff {t : Text} : startsItem t = true ↔ IsItem t := by
  constructor
  · intro h
    unfold startsItem at h
    split at h
    · exact Or.inl (List.prefix_append ..)
    · split at h
      · next d ds rest hspan =>
          rw [List.span_eq_takeWhile_dropWhile, Prod.mk.injEq] at hspan
          refine Or.inr ⟨d :: ds, by simp, ?_, rest, ?_⟩
          · intro c hc
            rw [← hspan.1] at hc
            exact List.mem_takeWhile_imp hc
          · rw [← List.takeWhile_append_dropWhile (p := Text.isDigit) (l := t), hspan.1, hspan.2]
            simp
      · exact absurd h (by simp)
  · rintro (⟨rest, rfl⟩ | ⟨digits, hne, hdigits, rest, rfl⟩)
    · rfl
    · rw [List.append_assoc]
      exact startsItem_of_digits hne hdigits rest

instance : DecidablePred IsItem :=
  fun t => decidable_of_iff (startsItem t = true) startsItem_iff

theorem IsItem.exists_not_blank {t : Text} (h : IsItem t) : ∃ c ∈ t, Text.isBlank c = false :=
  exists_not_blank_of_startsItem (startsItem_iff.2 h)

/-- A list item begins with a star or a digit. -/
theorem IsItem.exists_head {t : Text} (h : IsItem t) :
    ∃ first rest, t = first :: rest ∧ Text.isBlank first = false := by
  rcases h with ⟨rest, rfl⟩ | ⟨digits, hne, hdigits, rest, rfl⟩
  · exact ⟨'*', ' ' :: rest, rfl, by decide⟩
  · obtain ⟨d, ds, rfl⟩ := List.exists_cons_of_ne_nil hne
    exact ⟨d, ds ++ ". ".toList ++ rest, by simp,
      Text.not_blank_of_isDigit (hdigits d (List.mem_cons_self ..))⟩

/-- What is written of the text at a place: a list item before a list item has no blanks at its
end, and everything else is written as it is. -/
def segment (ts : List Text) (i : Nat) (t : Text) : Text :=
  if IsItem t ∧ ts[i + 1]?.any (IsItem ·) then t.stripEnd else t

/-- Texts side by side, each with a line break. -/
def joined (ts : List Text) : Text :=
  (ts.mapIdx (segment ts)).flatMap fun s => s ++ ['\n']

theorem segment_cons_succ (t : Text) (ts : List Text) (i : Nat) :
    segment (t :: ts) (i + 1) = segment ts i := rfl

theorem segment_cons_zero (t : Text) (ts : List Text) :
    segment (t :: ts) 0 t =
      if startsItem t && ts.head?.any startsItem then t.stripEnd else t := by
  cases ts with
  | nil => simp [segment]
  | cons u ts => simp [segment, startsItem_iff]

/-- The recursion over siblings writes each of them at its place. -/
theorem siblingText_eq_joined (ts : List Text) : siblingText ts = joined ts := by
  induction ts with
  | nil => rfl
  | cons t ts ih =>
      have hrest : (fun i => segment (t :: ts) (i + 1)) = segment ts :=
        funext (segment_cons_succ t ts)
      rw [siblingText, joined, List.mapIdx_cons, hrest, List.flatMap_cons, segment_cons_zero, ih,
        joined]
      simp

/-- What stands before a sibling does not depend on those after it. -/
theorem exists_siblingText_append (earlier : List Text) (t : Text) :
    ∃ before, ∀ later,
      siblingText (earlier ++ t :: later) = before ++ siblingText (t :: later) := by
  induction earlier with
  | nil => exact ⟨[], fun later => rfl⟩
  | cons s earlier ih =>
      obtain ⟨before, hbefore⟩ := ih
      -- The neighbour of `s` is the next one of the earlier siblings, or `t` after the last of them.
      have hhead : ∀ later, (earlier ++ t :: later).head? = (earlier ++ [t]).head? := by
        intro later
        cases earlier with
        | nil => rfl
        | cons r earlier => rfl
      refine ⟨(if startsItem s && (earlier ++ [t]).head?.any startsItem then s.stripEnd else s) ++
        '\n' :: before, fun later => ?_⟩
      rw [List.cons_append, siblingText, hbefore, hhead]
      simp

/-- How a list item `t` and the list item `u` after it stand in the text of siblings.  `before` is
what was written before `t`. -/
structure KeptTogether (text : Text) (earlier : List Text) (t u before : Text) : Prop where
  written : joinSiblings (earlier ++ [t]) = before ++ t ++ ['\n']
  /-- Trimming all that was written so far takes nothing from what stands before `t`. -/
  trimmed : (joinSiblings (earlier ++ [t])).stripEnd = before ++ t.stripEnd
  /-- One line break stands between the last character of `t` and the first one of `u`, and neither
  is a blank. -/
  adjacent : ∃ front last first after,
    t.stripEnd = front ++ [last] ∧ [first] <+: u ∧
      Text.isBlank last = false ∧ Text.isBlank first = false ∧
      text = before ++ front ++ last :: '\n' :: first :: after

theorem head_siblingText {u : Text} (h : IsItem u) (later : List Text) :
    ∃ first after, siblingText (u :: later) = first :: after ∧ [first] <+: u ∧
      Text.isBlank first = false := by
  obtain ⟨first, rest, rfl, hfirst⟩ := h.exists_head
  refine ⟨first, ?_⟩
  have hstrip : ∃ kept, Text.stripEnd (first :: rest) = first :: kept := by
    obtain ⟨front, last, hfront, -⟩ := Text.exists_trimEnd_eq_concat h.exists_not_blank
    have hpre := Text.trimEnd_isPrefix (p := Text.isBlank) (first :: rest)
    cases htrim : Text.stripEnd (first :: rest) with
    | nil =>
        rw [Text.stripEnd, hfront] at htrim
        simp at htrim
    | cons c kept =>
        rw [← Text.stripEnd, htrim, List.cons_prefix_cons] at hpre
        exact ⟨kept, by rw [hpre.1]⟩
  obtain ⟨kept, hkept⟩ := hstrip
  rw [siblingText, hkept]
  split
  · exact ⟨_, rfl, List.prefix_append [first] rest, hfirst⟩
  · exact ⟨_, rfl, List.prefix_append [first] rest, hfirst⟩

theorem exists_keptTogether (earlier later : List Text) {t u : Text} (ht : IsItem t)
    (hu : IsItem u) :
    ∃ before, KeptTogether (joinSiblings (earlier ++ t :: u :: later)) earlier t u before := by
  obtain ⟨before, hbefore⟩ := exists_siblingText_append earlier t
  have hwritten : joinSiblings (earlier ++ [t]) = before ++ t ++ ['\n'] := by
    rw [joinSiblings_eq, hbefore]
    simp [siblingText]
  obtain ⟨front, last, hfront, hlast⟩ := Text.exists_trimEnd_eq_concat ht.exists_not_blank
  obtain ⟨first, after, hafter, hfirst, hblank⟩ := head_siblingText hu later
  refine ⟨before, hwritten, ?_, front, last, first, after, hfront, hfirst, hlast, hblank, ?_⟩
  · rw [hwritten, Text.stripEnd, Text.trimEnd_concat_of_pos (by decide),
      Text.trimEnd_append ht.exists_not_blank, Text.stripEnd]
  · rw [joinSiblings_eq, hbefore, siblingText, hafter]
    simp [startsItem_iff.2 ht, startsItem_iff.2 hu, Text.stripEnd, hfront]

/-- Siblings are written one by one, each with a line break, and only a list item before a list item
loses the blanks at its end. -/
theorem render_siblings_text (mode : LinkMode) (inherited : Int) (nodes : List Node) :
    let texts := nodes.map fun n => (render mode inherited n).text
    let whole := (render mode inherited (.siblings nodes)).text
    whole = joined texts ∧
      ∀ earlier t u later, texts = earlier ++ t :: u :: later → IsItem t → IsItem u →
        ∃ before, KeptTogether whole earlier t u before := by
  intro texts whole
  have hwhole : whole = joinSiblings texts := by
    simp only [whole, texts, render, renderAll_eq_map, List.map_map, Function.comp_def]
  constructor
  · rw [hwhole, joinSiblings_eq, siblingText_eq_joined]
  · intro earlier t u later htexts ht hu
    rw [hwhole, htexts]
    exact exists_keptTogether earlier later ht hu

end Markup

end ApiAtlas
