import ApiAtlas.Markup.Render
import ApiAtlas.Proofs.Text.Trim
import Mathlib.Data.List.TakeDrop
import Mathlib.Data.List.TakeWhile

/-!
# Siblings and their neighbours

**Input.** The texts of siblings in their order.

**Definitions.** `siblingText` writes each sibling on its own: a list item loses the blanks at its
end when the next sibling is a list item too, and everything else is written as it is.

**Results.** `joinSiblings_eq`: this is how siblings are joined.  The blanks are removed from the end
of all that is written so far, but never more than those of the last sibling, because a list item has
a character that is no blank.
-/

namespace ApiAtlas

namespace Markup

/-- The texts of siblings, each with a line break; what a sibling loses at its end depends on the
next one only. -/
def siblingText : List Text → Text
  | [] => []
  | t :: ts =>
    (if startsItem t && ts.head?.any startsItem then t.stripEnd else t) ++ '\n' :: siblingText ts

theorem startsItem_of_not_digit {c : Char} (hstar : c ≠ '*') (hdigit : Text.isDigit c = false)
    (t : Text) : startsItem (c :: t) = false := by
  have hspan : (c :: t).span Text.isDigit = ([], c :: t) := by
    rw [List.span_eq_takeWhile_dropWhile, List.takeWhile_cons_of_neg (by simp [hdigit]),
      List.dropWhile_cons_of_neg (by simp [hdigit])]
  unfold startsItem
  rw [hspan]
  split
  · exact absurd (List.cons.inj ‹c :: t = _›).1 hstar
  · rfl

theorem exists_not_blank_of_startsItem {t : Text} (h : startsItem t = true) :
    ∃ c ∈ t, Text.isBlank c = false := by
  unfold startsItem at h
  split at h
  · exact ⟨'*', List.mem_cons_self .., by decide⟩
  · split at h
    · refine ⟨'.', ?_, by decide⟩
      have hspan := ‹t.span Text.isDigit = _›
      rw [List.span_eq_takeWhile_dropWhile, Prod.mk.injEq] at hspan
      rw [← List.takeWhile_append_dropWhile (p := Text.isDigit) (l := t), hspan.2]
      simp
    · exact absurd h (by simp)

/-- One more sibling: the blanks that go are those at the end of the last one. -/
theorem addSibling_eq (before t u : Text) :
    addSibling (before ++ t ++ ['\n'], startsItem t) u =
      (before ++ (if startsItem t && startsItem u then t.stripEnd else t) ++ '\n' :: u ++ ['\n'],
        startsItem u) := by
  have hbreak : Text.isBlank '\n' = true := by decide
  rw [addSibling, Bool.and_comm]
  by_cases h : startsItem t && startsItem u
  · have hitem : startsItem t = true := (Bool.and_eq_true_iff.1 h).1
    have hstrip : (before ++ t ++ ['\n']).stripEnd = before ++ t.stripEnd := by
      rw [Text.stripEnd, Text.trimEnd_concat_of_pos hbreak,
        Text.trimEnd_append (exists_not_blank_of_startsItem hitem), Text.stripEnd]
    rw [if_pos h, if_pos h, hstrip]
    simp
  · simp [h]

theorem foldl_addSibling (ts : List Text) (before t : Text) :
    (ts.foldl addSibling (before ++ t ++ ['\n'], startsItem t)).1 =
      before ++ siblingText (t :: ts) := by
  induction ts generalizing before t with
  | nil =>
      simp [siblingText]
  | cons u ts ih =>
      rw [List.foldl_cons, addSibling_eq]
      have hrest := ih (before ++ (if startsItem t && startsItem u then t.stripEnd else t) ++ ['\n']) u
      simp only [List.append_assoc, List.cons_append, List.nil_append] at hrest ⊢
      rw [hrest]
      rfl

/-- Joining siblings only looks at neighbours. -/
theorem joinSiblings_eq (ts : List Text) : joinSiblings ts = siblingText ts := by
  cases ts with
  | nil =>
      rfl
  | cons t ts =>
      have hfirst : addSibling ([], false) t = ([] ++ t ++ ['\n'], startsItem t) := by
        simp [addSibling]
      rw [joinSiblings, List.foldl_cons, hfirst, foldl_addSibling, List.nil_append]

theorem siblingText_of_not_item {t : Text} (h : startsItem t = false) (ts : List Text) :
    siblingText (t :: ts) = t ++ '\n' :: siblingText ts := by
  simp [siblingText, h]

end Markup

end ApiAtlas
