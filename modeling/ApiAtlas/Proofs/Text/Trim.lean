import ApiAtlas.Text.Blank
import Mathlib.Data.List.DropRight
import Mathlib.Data.List.Induction

/-!
# Trimmed texts

**Input.** Any text, and a class of characters.

**Results.**
* `trimEnd_append`: trimming the end goes back to the last character outside the class.
* `strip_eq_self`: a text without blanks at its ends is stripped already.
* `strip_strip`: a stripped text is one of these.
-/

namespace ApiAtlas

namespace Text

variable {p : Char → Bool}

section End

theorem trimEnd_concat_of_pos {c : Char} (hc : p c = true) (t : Text) :
    trimEnd p (t ++ [c]) = trimEnd p t := by
  rw [trimEnd, List.reverse_concat, List.dropWhile_cons_of_pos hc, trimEnd]

theorem trimEnd_concat_of_neg {c : Char} (hc : p c = false) (t : Text) :
    trimEnd p (t ++ [c]) = t ++ [c] := by
  rw [trimEnd, List.reverse_concat, List.dropWhile_cons_of_neg (by simp [hc]), List.reverse_cons,
    List.reverse_reverse]

/-- Trimming stops at the last character outside the class. -/
theorem trimEnd_append {t : Text} (h : ∃ c ∈ t, p c = false) (before : Text) :
    trimEnd p (before ++ t) = before ++ trimEnd p t := by
  obtain ⟨c, hc, hpc⟩ := h
  have hstop : (t.reverse.dropWhile p).isEmpty = false := by
    rw [List.isEmpty_eq_false_iff, ne_eq, List.dropWhile_eq_nil_iff]
    intro hall
    rw [hall c (List.mem_reverse.2 hc)] at hpc
    exact absurd hpc (by simp)
  rw [trimEnd, List.reverse_append, List.dropWhile_append, hstop, trimEnd]
  simp

theorem trimEnd_isPrefix (t : Text) : trimEnd p t <+: t := by
  rw [trimEnd, ← List.reverse_suffix, List.reverse_reverse]
  exact List.dropWhile_suffix p

/-- What is left of a text with a character outside the class ends with such a character. -/
theorem exists_trimEnd_eq_concat {t : Text} (h : ∃ c ∈ t, p c = false) :
    ∃ front last, trimEnd p t = front ++ [last] ∧ p last = false := by
  induction t using List.reverseRecOn with
  | nil =>
      obtain ⟨c, hc, -⟩ := h
      simp at hc
  | append_singleton t last ih =>
      cases hlast : p last with
      | false =>
          exact ⟨t, last, trimEnd_concat_of_neg hlast t, hlast⟩
      | true =>
          obtain ⟨c, hc, hpc⟩ := h
          have hmem : c ∈ t := by
            rcases List.mem_append.1 hc with hc | hc
            · exact hc
            · rw [List.mem_singleton.1 hc, hlast] at hpc
              simp at hpc
          rw [trimEnd_concat_of_pos hlast]
          exact ih ⟨c, hmem, hpc⟩

end End

section Both

theorem strip_eq_self {t : Text} (hfirst : ∀ c ∈ t.head?, isBlank c = false)
    (hlast : ∀ c ∈ t.getLast?, isBlank c = false) : t.strip = t := by
  have hstart : trimStart isBlank t = t := by
    cases t with
    | nil => rfl
    | cons c t => exact List.dropWhile_cons_of_neg (by simp [hfirst c rfl])
  rw [strip, trim, hstart]
  rcases List.eq_nil_or_concat' t with rfl | ⟨front, last, rfl⟩
  · rfl
  · exact trimEnd_concat_of_neg (hlast last (by simp)) front

/-- What is stripped off a text is in front of the rest or behind it. -/
theorem strip_isInfix (t : Text) : t.strip <:+: t :=
  (trimEnd_isPrefix _).isInfix.trans (List.dropWhile_suffix _).isInfix

@[simp] theorem strip_strip (t : Text) : t.strip.strip = t.strip := by
  apply strip_eq_self
  · intro c hc
    obtain ⟨rest, hrest⟩ := trimEnd_isPrefix (p := isBlank) (trimStart isBlank t)
    apply trimStart_head_not isBlank t c
    rw [← hrest]
    exact List.mem_head?_append_of_mem_head? hc
  · intro c hc
    obtain ⟨hne, rfl⟩ := List.mem_getLast?_eq_getLast hc
    exact Bool.eq_false_iff.2 (List.rdropWhile_last_not isBlank (trimStart isBlank t) hne)

end Both

end Text

end ApiAtlas
