import ApiAtlas.Text.Half

/-!
# The order of texts

**Definitions.** Texts are ordered character by character, by the numbers that the characters stand for; a text
comes before its continuations.  This is the order in which names and kinds are listed.

**Results.** The order is strict and total (`comesBefore_irrefl`, `comesBefore_trans`,
`comesBefore_total`), so that `atMost` may serve for sorting (`atMost_antisymm`, `atMost_trans`,
`atMost_total`).
-/

namespace ApiAtlas

namespace Text

section Defs

/-- Whether the first text comes before the second. -/
def comesBefore : Text → Text → Bool
  | _, [] => false
  | [], _ :: _ => true
  | a :: t, b :: u => codePoint a < codePoint b || (a == b && comesBefore t u)

/-- Whether the first text is the second or comes before it. -/
def atMost (t u : Text) : Bool :=
  !comesBefore u t

end Defs

section Laws

theorem comesBefore_cons (a b : Char) (t u : Text) :
    comesBefore (a :: t) (b :: u) = true ↔
      codePoint a < codePoint b ∨ (a = b ∧ comesBefore t u = true) := by
  simp [comesBefore]

/-- No text comes before itself. -/
@[simp] theorem comesBefore_irrefl (t : Text) : comesBefore t t = false := by
  induction t with
  | nil => rfl
  | cons a t ih => simp [comesBefore, ih]

/-- What comes before a text comes before what that text comes before. -/
theorem comesBefore_trans {t u v : Text} (htu : comesBefore t u = true)
    (huv : comesBefore u v = true) : comesBefore t v = true := by
  induction t generalizing u v with
  | nil =>
    cases u with
    | nil => simp [comesBefore] at htu
    | cons b u =>
      cases v with
      | nil => simp [comesBefore] at huv
      | cons c v => rfl
  | cons a t ih =>
    cases u with
    | nil => simp [comesBefore] at htu
    | cons b u =>
      cases v with
      | nil => simp [comesBefore] at huv
      | cons c v =>
        rw [comesBefore_cons] at htu huv ⊢
        rcases htu with hab | ⟨rfl, htu⟩
        · rcases huv with hbc | ⟨rfl, _⟩
          · exact Or.inl (Nat.lt_trans hab hbc)
          · exact Or.inl hab
        · rcases huv with hac | ⟨rfl, huv⟩
          · exact Or.inl hac
          · exact Or.inr ⟨rfl, ih htu huv⟩

/-- Of two different texts one comes before the other. -/
theorem comesBefore_total (t u : Text) :
    t = u ∨ comesBefore t u = true ∨ comesBefore u t = true := by
  induction t generalizing u with
  | nil =>
    cases u with
    | nil => exact Or.inl rfl
    | cons b u => exact Or.inr (Or.inl rfl)
  | cons a t ih =>
    cases u with
    | nil => exact Or.inr (Or.inr rfl)
    | cons b u =>
      simp only [comesBefore_cons]
      rcases Nat.lt_trichotomy (codePoint a) (codePoint b) with hab | hab | hab
      · exact Or.inr (Or.inl (Or.inl hab))
      · have hab := codePoint_injective hab
        subst hab
        rcases ih u with rfl | htu | hut
        · exact Or.inl rfl
        · exact Or.inr (Or.inl (Or.inr ⟨rfl, htu⟩))
        · exact Or.inr (Or.inr (Or.inr ⟨rfl, hut⟩))
      · exact Or.inr (Or.inr (Or.inl hab))

theorem atMost_refl (t : Text) : atMost t t = true := by
  simp [atMost]

theorem atMost_antisymm {t u : Text} (htu : atMost t u = true) (hut : atMost u t = true) :
    t = u := by
  simp only [atMost, Bool.not_eq_true'] at htu hut
  rcases comesBefore_total t u with h | h | h
  · exact h
  · rw [hut] at h
    exact absurd h (by simp)
  · rw [htu] at h
    exact absurd h (by simp)

theorem atMost_total (t u : Text) : (atMost t u || atMost u t) = true := by
  cases htu : comesBefore t u with
  | false => simp [atMost, htu]
  | true =>
    cases hut : comesBefore u t with
    | false => simp [atMost, hut]
    | true => exact absurd (comesBefore_trans htu hut) (by simp)

theorem atMost_trans (t u v : Text) (htu : atMost t u = true) (huv : atMost u v = true) :
    atMost t v = true := by
  simp only [atMost, Bool.not_eq_true'] at htu huv ⊢
  cases hvt : comesBefore v t with
  | false => rfl
  | true =>
    rcases comesBefore_total u t with rfl | hut | htu'
    · rw [hvt] at huv
      exact absurd huv (by simp)
    · rw [hut] at htu
      exact absurd htu (by simp)
    · rw [comesBefore_trans hvt htu'] at huv
      exact absurd huv (by simp)

end Laws

end Text

end ApiAtlas
