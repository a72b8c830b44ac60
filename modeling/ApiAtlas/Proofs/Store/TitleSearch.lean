import ApiAtlas.Proofs.Store.Retention

/-!
# Searching for a part of a title

**Input.** A store in any state, and a text that stands somewhere in a title.

**Definitions.** `Text.isFinal` is the rule for a capital sigma at the end of a word, and
`Text.lowerWithin` the lower case of a text between two others.  `Text.SameSigmas` says that the
rule decides every capital sigma of a text alike, whether the text stands between two others or
alone.

**Results.**
* `lower_append_append`: the lower case of a text that is put together from three.
* `lowerWithin_eq_lower_iff`: a part is lowered like the same text alone exactly when its capital
  sigmas are decided alike.
* `found_iff`: a search by title finds the visible entities whose title has the text in lower case,
  so it finds every title of which the text is a part with its sigmas decided alike.
* `greekWord_missed`: without that condition a part of a title may not be found.
-/

namespace ApiAtlas

namespace Text

variable {seen seen' t rest rest' : Text}

section Within

/-- Whether a capital sigma ends a word, given what precedes it (nearest first) and what follows. -/
def isFinal (seen rest : Text) : Bool :=
  meetsCased seen && !meetsCased rest

/-- A text in lower case, given what precedes it (nearest first) and what follows it. -/
def lowerWithin (seen : Text) : (t rest : Text) → Text
  | [], _ => []
  | c :: t, rest => lowerBetween seen c (t ++ rest) ++ lowerWithin (c :: seen) t rest

theorem lowerAfter_append (seen t rest : Text) :
    lowerAfter seen (t ++ rest) =
      lowerWithin seen t rest ++ lowerAfter (t.reverse ++ seen) rest := by
  induction t generalizing seen with
  | nil => rfl
  | cons c t ih =>
      rw [List.cons_append, lowerAfter, ih, lowerWithin]
      simp

theorem lowerWithin_nil (seen t : Text) : lowerWithin seen t [] = lowerAfter seen t := by
  have h := lowerAfter_append seen t []
  rw [lowerAfter, List.append_nil, List.append_nil] at h
  exact h.symm

/-- The lower case of a text that is put together from three. -/
theorem lower_append_append (front t back : Text) :
    lower (front ++ t ++ back) =
      lowerWithin [] front (t ++ back) ++ lowerWithin front.reverse t back ++
        lowerAfter (t.reverse ++ front.reverse) back := by
  rw [lower, List.append_assoc, lowerAfter_append, lowerAfter_append]
  simp

end Within

section Sigmas

theorem lowerBetween_sigma (seen rest : Text) :
    lowerBetween seen 'Σ' rest = [if isFinal seen rest then 'ς' else 'σ'] := by
  rw [lowerBetween, if_pos rfl, isFinal]

theorem lowerBetween_of_ne {c : Char} (hc : c ≠ 'Σ') (seen rest : Text) :
    lowerBetween seen c rest = lowerChar c := by
  rw [lowerBetween, if_neg hc]

theorem lower_final_inj {a b : Bool} :
    (if a then 'ς' else 'σ') = (if b then 'ς' else 'σ') ↔ a = b := by
  cases a <;> cases b <;> decide

/-- A statement about the occurrences of a character in a list is one about its head and one about
its tail. -/
theorem forall_split_cons {d c : Char} {t : Text} {p : Text → Text → Prop} :
    (∀ x y, c :: t = x ++ d :: y → p x y) ↔
      (c = d → p [] t) ∧ ∀ x y, t = x ++ d :: y → p (c :: x) y := by
  constructor
  · intro h
    refine ⟨?_, ?_⟩
    · rintro rfl
      exact h [] t rfl
    · rintro x y rfl
      exact h (c :: x) y rfl
  · rintro ⟨hhead, htail⟩ x y hsplit
    cases x with
    | nil =>
        obtain ⟨hc, rfl⟩ : c = d ∧ t = y := by simpa using hsplit
        exact hhead hc
    | cons b x =>
        obtain ⟨rfl, ht⟩ : c = b ∧ t = x ++ d :: y := by simpa using hsplit
        exact htail x y ht

/-- Between other texts a text is lowered in the same way exactly when its capital sigmas are
decided in the same way. -/
theorem lowerWithin_eq_iff :
    lowerWithin seen t rest = lowerWithin seen' t rest' ↔
      ∀ x y, t = x ++ 'Σ' :: y →
        isFinal (x.reverse ++ seen) (y ++ rest) = isFinal (x.reverse ++ seen') (y ++ rest') := by
  -- on the part: a character that was passed is then one that precedes
  induction t generalizing seen seen' with
  | nil => simp [lowerWithin]
  | cons c t ih =>
      simp only [forall_split_cons, List.reverse_nil, List.nil_append, List.reverse_cons,
        List.append_assoc, List.cons_append]
      rw [lowerWithin, lowerWithin, ← ih]
      by_cases hc : c = 'Σ'
      · subst hc
        rw [lowerBetween_sigma, lowerBetween_sigma, List.singleton_append, List.singleton_append,
          List.cons_eq_cons, lower_final_inj]
        simp
      · rw [lowerBetween_of_ne hc, lowerBetween_of_ne hc]
        simp [hc]

/-- Whether every capital sigma of a text is decided alike between two others and alone. -/
def SameSigmas (front t back : Text) : Prop :=
  ∀ x y, t = x ++ 'Σ' :: y →
    isFinal (front ++ x).reverse (y ++ back) = isFinal x.reverse y

theorem sameSigmas_of_not_mem {front back : Text} (h : 'Σ' ∉ t) : SameSigmas front t back := by
  rintro x y rfl
  simp at h

/-- A part is lowered like the same text alone exactly when its capital sigmas are decided alike. -/
theorem lowerWithin_eq_lower_iff {front back : Text} :
    lowerWithin front.reverse t back = lower t ↔ SameSigmas front t back := by
  rw [lower, ← lowerWithin_nil, lowerWithin_eq_iff, SameSigmas]
  simp only [List.append_nil, List.reverse_append]

end Sigmas

end Text

namespace Store

open Text

section Titles

/-- A search by title finds the visible entities whose title has the text, both in lower case. -/
theorem mem_search_title_iff {s : Store} {t : Text} {minimum : Access} {e : Entity} :
    e ∈ s.search (some t) none minimum ↔
      e ∈ Entity.flatten s.docs ∧ minimum ≤ e.access ∧ t.lower <:+: e.title.lower := by
  simp [search, isMatch, occursIn_iff_infix]

/-- A visible entity is found exactly when its title has the text, both in lower case.  So it is
found by every part of its title in which the capital sigmas are decided as in the title, and by
every part without one. -/
theorem found_iff (s : Store) {e : Entity} {minimum : Access} (he : e ∈ Entity.flatten s.docs)
    (hvisible : minimum ≤ e.access) (t : Text) :
    (e ∈ s.search (some t) none minimum ↔ t.lower <:+: e.title.lower) ∧
      (∀ front back, e.title = front ++ t ++ back → SameSigmas front t back →
        e ∈ s.search (some t) none minimum) ∧
      ('Σ' ∉ t → t <:+: e.title → e ∈ s.search (some t) none minimum) := by
  have hiff : e ∈ s.search (some t) none minimum ↔ t.lower <:+: e.title.lower := by
    rw [mem_search_title_iff]
    exact ⟨fun h => h.2.2, fun h => ⟨he, hvisible, h⟩⟩
  have hpart : ∀ front back, e.title = front ++ t ++ back → SameSigmas front t back →
      e ∈ s.search (some t) none minimum := by
    intro front back htitle hsame
    rw [hiff, htitle, lower_append_append, lowerWithin_eq_lower_iff.2 hsame]
    exact List.infix_append ..
  refine ⟨hiff, hpart, ?_⟩
  rintro hsigma ⟨front, back, htitle⟩
  exact hpart front back htitle.symm (sameSigmas_of_not_mem hsigma)

end Titles

section Sample

/-- A name that ends in a capital sigma. -/
def greekName : Text :=
  "ΛΟΓΟΣ".toList

/-- A type of this name with a type inside. -/
def greekTypes : Source :=
  ⟨"G.swift".toList, [Record.ofPublic "class" "ΛΟΓΟΣ" [Record.ofPublic "struct" "Index" []]]⟩

theorem greekPart_found :
    ∃ e ∈ Entity.flatten (ofSources {} [greekTypes]).docs, Access.priv ≤ e.access ∧
      e.title = "ΛΟΓ".toList ++ "ΟΣ.Ind".toList ++ "ex".toList ∧
      SameSigmas "ΛΟΓ".toList "ΟΣ.Ind".toList "ex".toList ∧
      e ∈ (ofSources {} [greekTypes]).search (some "ΟΣ.Ind".toList) none .priv := by
  obtain ⟨e, he, htitle⟩ : ∃ e ∈ Entity.flatten (ofSources {} [greekTypes]).docs,
      e.title = "ΛΟΓ".toList ++ "ΟΣ.Ind".toList ++ "ex".toList := by
    decide +kernel
  have hsame : SameSigmas "ΛΟΓ".toList "ΟΣ.Ind".toList "ex".toList :=
    lowerWithin_eq_lower_iff.1 (by decide +kernel)
  exact ⟨e, he, Access.priv_le _, htitle, hsame,
    (found_iff _ he (Access.priv_le _) _).2.1 _ _ htitle hsame⟩

/-- The name of the type alone ends in a final sigma in lower case, the title of the type inside
does not have one: a search for the name misses it. -/
theorem greekWord_missed :
    ∃ e ∈ Entity.flatten (ofSources {} [greekTypes]).docs, Access.priv ≤ e.access ∧
      greekName <:+: e.title ∧
      e ∉ (ofSources {} [greekTypes]).search (some greekName) none .priv := by
  obtain ⟨e, he, hpart, hmissed⟩ : ∃ e ∈ Entity.flatten (ofSources {} [greekTypes]).docs,
      greekName <:+: e.title ∧ ¬ greekName.lower <:+: e.title.lower := by
    decide +kernel
  exact ⟨e, he, Access.priv_le _, hpart, fun hfound => hmissed (mem_search_title_iff.1 hfound).2.2⟩

end Sample

end Store

end ApiAtlas
