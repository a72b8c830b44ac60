import ApiAtlas.Access
import ApiAtlas.Proofs.Text.Case

/-!
# Which labels name an access level

**Input.** Any text.

**Definitions.** `Text.plain` reads a dotless i as i and the ligature of f and i as its two letters.
`Access.Spelled` are the texts that are the label of a level when they are read like this.

**Results.**
* `upper_eq_capitals_iff`: the texts in lower case that have the capitals of a level are the ones
  that spell its label.
* `parse?_eq_some_iff`: a label names a level when its text in lower case spells the label of the
  level, bare or qualified.  Without the two characters it has to be the label itself.
-/

namespace ApiAtlas

namespace Text

section Plain

/-- A dotless i as i, and the ligature of f and i as two letters; other characters stay. -/
def plainChar (c : Char) : Text :=
  if c = '\u0131' then ['i'] else if c = '\uFB01' then ['f', 'i'] else [c]

/-- A text with its dotless i and its ligatures of f and i in basic letters. -/
def plain (t : Text) : Text :=
  t.flatMap plainChar

theorem plain_eq_self {t : Text} (hdotless : '\u0131' ∉ t) (hligature : '\uFB01' ∉ t) :
    plain t = t := by
  have hchar : ∀ c ∈ t, plainChar c = [c] := by
    intro c hc
    have hne : c ≠ '\u0131' ∧ c ≠ '\uFB01' := by
      constructor
      · rintro rfl
        exact hdotless hc
      · rintro rfl
        exact hligature hc
    rw [plainChar, if_neg hne.1, if_neg hne.2]
  rw [plain, List.flatMap_congr hchar]
  simp

theorem plainChar_of_small {c : Char} (h : IsSmall c) : plainChar c = [c] := by
  have hascii : c.toNat < 128 := Nat.lt_of_le_of_lt h.2 (by decide)
  exact forall_ascii (fun c => IsSmall c → plainChar c = [c]) (by decide) hascii h

/-- A character that reads as small letters has their capitals. -/
theorem upperChar_of_plainChar {c : Char} (h : ∀ d ∈ plainChar c, IsSmall d) :
    upperChar c = (plainChar c).map Char.toUpper := by
  by_cases hdotless : c = '\u0131'
  · rw [hdotless]
    decide +kernel
  by_cases hligature : c = '\uFB01'
  · rw [hligature]
    decide +kernel
  have hplain : plainChar c = [c] := by rw [plainChar, if_neg hdotless, if_neg hligature]
  rw [hplain] at h ⊢
  have hsmall := h c (List.mem_singleton_self c)
  rw [upperChar, if_pos (Nat.lt_of_le_of_lt hsmall.2 (by decide))]
  rfl

end Plain

end Text

namespace Access

open Text

variable {level : Access}

section Names

theorem small_of_mem_label {c : Char} (h : c ∈ level.label) : IsSmall c := by
  have hall : level.label.all (fun c => IsSmall c) = true := by cases level <;> decide
  exact of_decide_eq_true (List.all_eq_true.1 hall c h)

theorem capital_of_mem_capitals {c : Char} (h : c ∈ level.capitals) : IsCapital c := by
  have hall : level.capitals.all (fun c => IsCapital c) = true := by cases level <;> decide
  exact of_decide_eq_true (List.all_eq_true.1 hall c h)

theorem map_toUpper_label : level.label.map Char.toUpper = level.capitals := by
  cases level <;> decide

theorem map_toLower_capitals : level.capitals.map Char.toLower = level.label := by
  cases level <;> decide

/-- Of the characters with foreign capitals only the dotless i and the ligature of f and i fit into
the name of a level. -/
theorem foreign_of_infix {e : Char × Text} (he : e ∈ foreignCapitals)
    (h : e.2 <:+: level.capitals) : e.1 = '\u0131' ∨ e.1 = '\uFB01' := by
  have hall : ∀ l ∈ all, ∀ e ∈ foreignCapitals, e.2 <:+: l.capitals →
      e.1 = '\u0131' ∨ e.1 = '\uFB01' := by decide +kernel
  exact hall level (mem_all level) e he h

/-- A settled text has the capitals of a level when it reads as the label of the level. -/
theorem upper_eq_capitals_iff {name : Text} (hname : ∀ c ∈ name, Settled c) :
    upper name = level.capitals ↔ plain name = level.label := by
  constructor
  · intro h
    -- the capitals of each character stand in those of the level, so few characters come into
    -- question
    have hchar : ∀ c ∈ name, plainChar c = (upperChar c).map Char.toLower := by
      intro c hc
      have hin : upperChar c <:+: level.capitals := by
        rw [← h, upper]
        exact List.infix_flatMap_of_mem hc upperChar
      rcases capitals_cases (hname c hc) fun d hd => capital_of_mem_capitals (hin.subset hd) with
        ⟨hsmall, hupper⟩ | hforeign
      · have hascii : c.toNat < 128 := Nat.lt_of_le_of_lt hsmall.2 (by decide)
        rw [hupper, plainChar_of_small hsmall]
        exact forall_ascii (fun c => IsSmall c → [c] = [c.toUpper].map Char.toLower) (by decide)
          hascii hsmall
      · rcases foreign_of_infix hforeign hin with hc | hc
        · rw [show c = '\u0131' from hc]
          decide +kernel
        · rw [show c = '\uFB01' from hc]
          decide +kernel
    rw [plain, List.flatMap_congr hchar, ← List.map_flatMap, ← upper, h, map_toLower_capitals]
  · intro h
    have hchar : ∀ c ∈ name, upperChar c = (plainChar c).map Char.toUpper := by
      intro c hc
      refine upperChar_of_plainChar fun d hd => ?_
      have hmem : d ∈ plain name := List.mem_flatMap.2 ⟨c, hc, hd⟩
      rw [h] at hmem
      exact small_of_mem_label hmem
    rw [upper, List.flatMap_congr hchar, ← List.map_flatMap, ← plain, h, map_toUpper_label]

end Names

section Labels

/-- Whether a text is the label of a level when it is read plainly. -/
def Spelled (level : Access) (name : Text) : Prop :=
  plain name = level.label

instance (name : Text) : Decidable (Spelled level name) :=
  inferInstanceAs (Decidable (_ = _))

theorem spelled_iff_of_plain {name : Text} (hdotless : '\u0131' ∉ name)
    (hligature : '\uFB01' ∉ name) : Spelled level name ↔ name = level.label := by
  rw [Spelled, plain_eq_self hdotless hligature]

/-- No level has a label that begins like a qualified one. -/
theorem not_spelled_qualifier_append (name : Text) : ¬ Spelled level (qualifier ++ name) := by
  intro h
  have hhead : (plain (qualifier ++ name)).head? = some 's' := by
    rw [plain, List.flatMap_append]
    rfl
  rw [h] at hhead
  cases level <;> exact absurd hhead (by decide)

/-- Cutting the qualifier off leaves the name of a bare or qualified label. -/
theorem spelled_cut_iff {t : Text} :
    Spelled level (Text.cut qualifier t) ↔
      ∃ name, Spelled level name ∧ (t = name ∨ t = qualifier ++ name) := by
  constructor
  · intro h
    rw [Text.cut] at h
    cases hcut : Text.cut? qualifier t with
    | none =>
        rw [hcut] at h
        exact ⟨t, h, Or.inl rfl⟩
    | some name =>
        rw [hcut] at h
        exact ⟨name, h, Or.inr (Text.eq_append_of_cut? hcut)⟩
  · rintro ⟨name, hname, rfl | rfl⟩
    · cases hcut : Text.cut? qualifier t with
      | none => rwa [Text.cut, hcut]
      | some rest =>
          rw [Text.eq_append_of_cut? hcut] at hname
          exact absurd hname (not_spelled_qualifier_append rest)
    · rwa [Text.cut, Text.cut?_append]

theorem mem_of_mem_cut {w t : Text} {c : Char} (h : c ∈ Text.cut w t) : c ∈ t := by
  rw [Text.cut] at h
  cases hcut : Text.cut? w t with
  | none => rwa [hcut] at h
  | some rest =>
      rw [hcut] at h
      rw [Text.eq_append_of_cut? hcut]
      exact List.mem_append_right w h

/-- A label names the level whose label its name spells. -/
theorem parse?_eq_some_iff_spelled {label : Text} :
    parse? label = some level ↔ Spelled level (Text.cut qualifier label.strip.lower) := by
  have hsettled : ∀ c ∈ Text.cut qualifier label.strip.lower, Settled c := fun c hc =>
    settled_of_mem_lower (mem_of_mem_cut hc)
  rw [Spelled, ← upper_eq_capitals_iff hsettled, parse?]
  constructor
  · intro h
    have hfound := List.find?_some h
    exact (beq_iff_eq.1 hfound).symm
  · intro h
    rw [h]
    cases level <;> decide

/-- A label names a level when its text in lower case spells the label of the level, bare or after
the qualifier.  A text without a dotless i and without a ligature of f and i has to be the label
itself, bare or after the qualifier. -/
theorem parse?_eq_some_iff (label : Text) (level : Access) :
    (parse? label = some level ↔
      ∃ name, Spelled level name ∧
        (label.strip.lower = name ∨ label.strip.lower = qualifier ++ name)) ∧
    ('\u0131' ∉ label.strip.lower → '\uFB01' ∉ label.strip.lower →
      (parse? label = some level ↔
        label.strip.lower = level.label ∨ label.strip.lower = qualifier ++ level.label)) := by
  have hiff : parse? label = some level ↔ ∃ name, Spelled level name ∧
      (label.strip.lower = name ∨ label.strip.lower = qualifier ++ name) :=
    parse?_eq_some_iff_spelled.trans spelled_cut_iff
  refine ⟨hiff, fun hdotless hligature => hiff.trans ?_⟩
  constructor
  · rintro ⟨name, hname, hbare | hqualified⟩
    · rw [hbare] at hdotless hligature ⊢
      exact Or.inl ((spelled_iff_of_plain hdotless hligature).1 hname)
    · rw [hqualified, List.mem_append, not_or] at hdotless hligature
      rw [hqualified, (spelled_iff_of_plain hdotless.2 hligature.2).1 hname]
      exact Or.inr rfl
  · intro h
    have hname : Spelled level level.label := by cases level <;> decide
    exact ⟨level.label, hname, h⟩

/-- A qualified label in capitals with blanks around it. -/
def shoutedLabel : Text :=
  "\u00A0Source.Lang.Swift.Accessibility.FILEPRIVATE\n".toList

theorem shoutedLabel_names :
    '\u0131' ∉ shoutedLabel.strip.lower ∧ '\uFB01' ∉ shoutedLabel.strip.lower ∧
      parse? shoutedLabel = some .filePriv := by
  have hdotless : '\u0131' ∉ shoutedLabel.strip.lower := by decide +kernel
  have hligature : '\uFB01' ∉ shoutedLabel.strip.lower := by decide +kernel
  have hlower : shoutedLabel.strip.lower = qualifier ++ filePriv.label := by decide +kernel
  exact ⟨hdotless, hligature,
    ((parse?_eq_some_iff shoutedLabel .filePriv).2 hdotless hligature).2 (Or.inr hlower)⟩

/-- The word for public with a dotless i. -/
def dotlessPublic : Text :=
  "publ\u0131c".toList

/-- A text that is no label of a level can still name one. -/
theorem dotlessPublic_names :
    parse? dotlessPublic = some .pub ∧
      ¬ (dotlessPublic.strip.lower = pub.label ∨
        dotlessPublic.strip.lower = qualifier ++ pub.label) := by
  decide +kernel

end Labels

end Access

end ApiAtlas
