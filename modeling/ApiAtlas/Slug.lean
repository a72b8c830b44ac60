import ApiAtlas.Text.Case
import ApiAtlas.Text.Word

/-!
# Slugs

**Input.** Any text, such as a title or a kind label.

**Definitions.** The slug of a text has one hyphen in the place of each longest run of characters
that do not belong to words.  Anchors and folders are slugs of the text in lower case, file names
slugs of the text as it is.

**Results.** A slug holds word characters and hyphens only (`mem_slug`), and never two hyphens in a
row (`not_infix_slug`).
-/

namespace ApiAtlas

namespace Text

section Defs

/-- The slug of a text, where `inGap` says that a hyphen for the current run is already there. -/
def slugFrom (inGap : Bool) : Text → Text
  | [] => []
  | c :: t =>
    if isWord c then c :: slugFrom false t
    else if inGap then slugFrom true t
    else '-' :: slugFrom true t

/-- The text with a hyphen for each run of other than word characters. -/
def slug (t : Text) : Text :=
  slugFrom false t

/-- The slug of the text in lower case. -/
def lowerSlug (t : Text) : Text :=
  t.lower.slug

end Defs

section Laws

theorem mem_slugFrom {inGap : Bool} {t : Text} {c : Char} (h : c ∈ slugFrom inGap t) :
    isWord c = true ∨ c = '-' := by
  induction t generalizing inGap with
  | nil => simp [slugFrom] at h
  | cons a t ih =>
    by_cases ha : isWord a
    · rcases (by simpa [slugFrom, ha] using h : c = a ∨ c ∈ slugFrom false t) with rfl | h
      · exact .inl ha
      · exact ih h
    · cases inGap with
      | true => exact ih (by simpa [slugFrom, ha] using h)
      | false =>
        rcases (by simpa [slugFrom, ha] using h : c = '-' ∨ c ∈ slugFrom true t) with rfl | h
        · exact .inr rfl
        · exact ih h

/-- A slug holds word characters and hyphens only. -/
theorem mem_slug {t : Text} {c : Char} (h : c ∈ slug t) : isWord c = true ∨ c = '-' :=
  mem_slugFrom h

theorem isWord_hyphen : isWord '-' = false := by
  decide +kernel

/-- After a gap that has its hyphen no other one follows. -/
theorem head?_slugFrom_true (t : Text) : (slugFrom true t).head? ≠ some '-' := by
  induction t with
  | nil => simp [slugFrom]
  | cons a t ih =>
    by_cases ha : isWord a
    · have hne : a ≠ '-' := by
        rintro rfl
        simp [isWord_hyphen] at ha
      simp [slugFrom, ha, hne]
    · simpa [slugFrom, ha] using ih

theorem not_infix_slugFrom (inGap : Bool) (t : Text) : ¬ ['-', '-'] <:+: slugFrom inGap t := by
  induction t generalizing inGap with
  | nil => simp [slugFrom]
  | cons a t ih =>
    by_cases ha : isWord a
    · have hne : '-' ≠ a := by
        rintro rfl
        simp [isWord_hyphen] at ha
      simp [slugFrom, ha, List.infix_cons_iff, hne, ih]
    · cases inGap with
      | true => simpa [slugFrom, ha] using ih true
      | false =>
        have hnext : ¬ ['-'] <+: slugFrom true t := by
          rintro ⟨rest, hrest⟩
          exact head?_slugFrom_true t (by simp [← hrest])
        simp [slugFrom, ha, List.infix_cons_iff, hnext, ih]

/-- A slug never has two hyphens in a row. -/
theorem not_infix_slug (t : Text) : ¬ ['-', '-'] <:+: slug t :=
  not_infix_slugFrom false t

end Laws

end Text

end ApiAtlas
