import ApiAtlas.Text.Case
import Mathlib.Data.List.Basic

/-!
# Letter case and the basic letters

**Input.** Any text.

**Definitions.** `IsBasic` are the first 128 characters without the character zero.  `Settled` are
the characters that the change to lower case may leave behind: all but the basic capitals and the
two others that become basic letters.  `foreignCapitals` lists the characters outside the basic set
whose capitals are basic letters.

**Results.**
* `lowerChar_cases`: what a character becomes in lower case.
* `settled_of_mem_lower`: a text in lower case has settled characters only.
* `lower_eq_self`: a text of basic characters without capitals stays as it is.
* `eq_of_lower_eq`: a settled text that becomes a basic word in lower case is this word.
* `capitals_cases`: a settled character whose capitals are basic letters is a small basic letter or
  one of the listed ones.
-/

namespace ApiAtlas

namespace Text

section Tables

/-- A code point that is moved lies in a run. -/
theorem Runs.exists_of_image? {rs : Runs} {n m : Nat} (h : rs.image? n = some m) :
    ∃ first last step image, (first, last, step, image) ∈ rs ∧ first ≤ n ∧ n ≤ last ∧
      m = image + (n - first) := by
  obtain ⟨⟨first, last, step, image⟩, hfind, rfl⟩ := Option.map_eq_some_iff.1 h
  have hin := List.find?_some hfind
  simp only [Bool.and_eq_true, decide_eq_true_eq] at hin
  exact ⟨first, last, step, image, List.mem_of_find?_eq_some hfind, hin.1.1, hin.1.2, rfl⟩

/-- What a character becomes: an expansion, the image under a run, or itself. -/
theorem mapped_cases (runs : Runs) (expansions : Expansions) (c : Char) :
    (∃ ns, (c.toNat, ns) ∈ expansions ∧ mapped runs expansions c = ns.map Char.ofNat) ∨
      (∃ first last step image, (first, last, step, image) ∈ runs ∧ first ≤ c.toNat ∧
        c.toNat ≤ last ∧
        mapped runs expansions c = [Char.ofNat (image + (c.toNat - first))]) ∨
      mapped runs expansions c = [c] := by
  rw [mapped]
  cases hexp : expansions.lookup c.toNat with
  | some ns =>
      obtain ⟨before, after, hsplit, -⟩ := List.lookup_eq_some_iff.1 hexp
      exact Or.inl ⟨ns, by simp [hsplit], rfl⟩
  | none =>
      refine Or.inr ?_
      cases himage : runs.image? c.toNat with
      | none => exact Or.inr rfl
      | some m =>
          obtain ⟨first, last, step, image, hmem, hfirst, hlast, rfl⟩ :=
            Runs.exists_of_image? himage
          exact Or.inl ⟨first, last, step, image, hmem, hfirst, hlast, rfl⟩

/-- Only a number of no character gives the character zero. -/
theorem toNat_ofNat_of_pos {n : Nat} (h : 0 < (Char.ofNat n).toNat) : (Char.ofNat n).toNat = n := by
  by_cases hn : n.isValidChar
  · rw [Char.ofNat, dif_pos hn]
    rfl
  · rw [Char.ofNat, dif_neg hn] at h
    exact absurd h (by decide)

/-- What holds of the first 128 characters can be tested one by one. -/
theorem forall_ascii (p : Char → Prop) (h : ∀ n < 128, p (Char.ofNat n)) {c : Char}
    (hc : c.toNat < 128) : p c := by
  have hat := h c.toNat hc
  rwa [Char.ofNat_toNat] at hat

end Tables

section Lower

/-- Whether a character is one of the first 128, apart from the character zero. -/
def IsBasic (c : Char) : Prop :=
  0 < c.toNat ∧ c.toNat < 128

/-- Whether a character can be left when a text was put in lower case: it is no basic capital, and
neither the sign of the kelvin nor the capital I with a dot. -/
def Settled (c : Char) : Prop :=
  (c.toNat < 65 ∨ 90 < c.toNat) ∧ c.toNat ≠ 0x212A ∧ c.toNat ≠ 0x130

instance (c : Char) : Decidable (IsBasic c) :=
  inferInstanceAs (Decidable (_ ∧ _))

instance (c : Char) : Decidable (Settled c) :=
  inferInstanceAs (Decidable (_ ∧ _))

/-- What the table of lower case says about its images: they come after the basic capitals, only
the sign of the kelvin leads back to a basic letter, and no image is one of the two exceptions. -/
theorem lowerRuns_images : ∀ run ∈ lowerRuns, 91 ≤ run.2.2.2 ∧
    (run.2.2.2 < 128 → run.1 = 0x212A ∧ run.2.1 = 0x212A) ∧
    (0x212A < run.2.2.2 ∨ run.2.2.2 + (run.2.1 - run.1) < 0x212A) ∧
    (0x130 < run.2.2.2 ∨ run.2.2.2 + (run.2.1 - run.1) < 0x130) := by
  decide +kernel

/-- What a character becomes in lower case.  A basic one stays basic, the capital I with a dot
becomes two, and any other stays as it is or has an image in the table. -/
theorem lowerChar_cases (c : Char) :
    (c.toNat < 128 ∧ lowerChar c = [c.toLower]) ∨
      (c.toNat = 0x130 ∧ lowerChar c = ['i', '\u0307']) ∨
      (128 ≤ c.toNat ∧ ∃ d, lowerChar c = [d] ∧
        (d = c ∨ Settled d ∧ (IsBasic d → c.toNat = 0x212A))) := by
  rw [lowerChar]
  split
  · next hascii => exact Or.inl ⟨hascii, rfl⟩
  · next hascii =>
      right
      rcases mapped_cases lowerRuns lowerExpansions c with
        ⟨ns, hns, hmapped⟩ | ⟨first, last, step, image, hrun, hfirst, hlast, hmapped⟩ | hmapped
      · have hall : ∀ e ∈ lowerExpansions,
            e.1 = 0x130 ∧ e.2.map Char.ofNat = ['i', '\u0307'] := by
          decide
        rw [hmapped]
        exact Or.inl (hall _ hns)
      · obtain ⟨hafter, hback, hkelvin, hdotted⟩ := lowerRuns_images _ hrun
        simp only at hafter hback hkelvin hdotted
        have hnum := toNat_ofNat_of_pos (n := image + (c.toNat - first))
        refine Or.inr ⟨by omega, _, hmapped, Or.inr ⟨⟨?_, ?_, ?_⟩, ?_⟩⟩
        · omega
        · omega
        · omega
        · rintro ⟨hpos, hlt⟩
          omega
      · exact Or.inr ⟨by omega, c, hmapped, Or.inl rfl⟩

theorem settled_of_mem_lowerChar {c d : Char} (h : d ∈ lowerChar c) : Settled d := by
  rcases lowerChar_cases c with
    ⟨hascii, hlower⟩ | ⟨-, hlower⟩ | ⟨hlarge, b, hlower, rfl | ⟨hsettled, -⟩⟩
  · rw [hlower, List.mem_singleton] at h
    rw [h]
    exact forall_ascii (fun c => Settled c.toLower) (by decide) hascii
  · rw [hlower, List.mem_pair] at h
    rcases h with rfl | rfl <;> decide
  · rw [hlower, List.mem_singleton] at h
    rw [h]
    -- both exceptions change, so neither is a character that stays
    have hchange : ∀ n ∈ [0x212A, 0x130], lowerChar (Char.ofNat n) ≠ [Char.ofNat n] := by
      decide +kernel
    have hne : ∀ n ∈ [0x212A, 0x130], b.toNat ≠ n := by
      intro n hn heq
      rw [← Char.ofNat_toNat b, heq] at hlower
      exact hchange n hn hlower
    exact ⟨by omega, hne _ (by decide), hne _ (by decide)⟩
  · rw [hlower, List.mem_singleton] at h
    rwa [h]

theorem settled_of_mem_lowerAfter {seen t : Text} {d : Char} (h : d ∈ lowerAfter seen t) :
    Settled d := by
  induction t generalizing seen with
  | nil => simp [lowerAfter] at h
  | cons c t ih =>
      rw [lowerAfter, List.mem_append] at h
      rcases h with h | h
      · rw [lowerBetween] at h
        split at h
        · rw [List.mem_singleton.1 h]
          split <;> decide
        · exact settled_of_mem_lowerChar h
      · exact ih h

/-- A text in lower case has settled characters only. -/
theorem settled_of_mem_lower {t : Text} {d : Char} (h : d ∈ lower t) : Settled d :=
  settled_of_mem_lowerAfter h

theorem toLower_of_settled {c : Char} (hascii : c.toNat < 128) (hc : Settled c) :
    c.toLower = c :=
  forall_ascii (fun c => Settled c → c.toLower = c) (by decide) hascii hc

/-- A settled character becomes one character, and a basic one only when it stays as it is. -/
theorem exists_lowerBetween {c : Char} (hc : Settled c) (seen rest : Text) :
    ∃ d, lowerBetween seen c rest = [d] ∧ (IsBasic d → d = c) := by
  have ⟨_, hkelvin, hdotted⟩ := hc
  rw [lowerBetween]
  split
  · refine ⟨_, rfl, fun hbasic => ?_⟩
    split at hbasic <;> exact absurd hbasic (by decide)
  · rcases lowerChar_cases c with
      ⟨hascii, hlower⟩ | ⟨hdot, -⟩ | ⟨-, b, hlower, rfl | ⟨-, hback⟩⟩
    · exact ⟨c.toLower, hlower, fun _ => toLower_of_settled hascii hc⟩
    · exact absurd hdot hdotted
    · exact ⟨b, hlower, fun _ => rfl⟩
    · exact ⟨b, hlower, fun hbasic => absurd (hback hbasic) hkelvin⟩

theorem lowerBetween_of_basic {c : Char} (hbasic : IsBasic c) (hc : Settled c)
    (seen rest : Text) : lowerBetween seen c rest = [c] := by
  have hsigma : c ≠ 'Σ' := by
    rintro rfl
    exact absurd hbasic (by decide)
  rw [lowerBetween, if_neg hsigma, lowerChar, if_pos hbasic.2, toLower_of_settled hbasic.2 hc]

theorem lowerAfter_eq_self {seen t : Text} (ht : ∀ c ∈ t, IsBasic c ∧ Settled c) :
    lowerAfter seen t = t := by
  induction t generalizing seen with
  | nil => rfl
  | cons c t ih =>
      obtain ⟨⟨hbasic, hc⟩, ht⟩ := List.forall_mem_cons.1 ht
      rw [lowerAfter, lowerBetween_of_basic hbasic hc, ih ht, List.singleton_append]

/-- A text of basic characters without capitals is in lower case. -/
theorem lower_eq_self {t : Text} (ht : ∀ c ∈ t, IsBasic c ∧ Settled c) : lower t = t :=
  lowerAfter_eq_self ht

theorem mem_of_mem_lowerAfter {seen t : Text} {d : Char} (ht : ∀ c ∈ t, Settled c)
    (hd : d ∈ lowerAfter seen t) (hbasic : IsBasic d) : d ∈ t := by
  induction t generalizing seen with
  | nil => simp [lowerAfter] at hd
  | cons c t ih =>
      obtain ⟨hc, ht⟩ := List.forall_mem_cons.1 ht
      obtain ⟨e, hbetween, he⟩ := exists_lowerBetween hc seen t
      rw [lowerAfter, hbetween, List.singleton_append] at hd
      rcases List.mem_cons.1 hd with rfl | hd
      · rw [he hbasic]
        exact List.mem_cons_self ..
      · exact List.mem_cons_of_mem c (ih ht hd)

/-- Lower case adds no basic character to a settled text. -/
theorem mem_of_mem_lower {t : Text} {d : Char} (ht : ∀ c ∈ t, Settled c) (hd : d ∈ lower t)
    (hbasic : IsBasic d) : d ∈ t :=
  mem_of_mem_lowerAfter ht hd hbasic

theorem eq_of_lowerAfter_eq {seen t w : Text} (ht : ∀ c ∈ t, Settled c)
    (hw : ∀ d ∈ w, IsBasic d) (h : lowerAfter seen t = w) : t = w := by
  induction t generalizing seen w with
  | nil => exact h
  | cons c t ih =>
      obtain ⟨hc, ht⟩ := List.forall_mem_cons.1 ht
      obtain ⟨e, hbetween, he⟩ := exists_lowerBetween hc seen t
      rw [lowerAfter, hbetween, List.singleton_append] at h
      subst h
      obtain ⟨hbasic, hw⟩ := List.forall_mem_cons.1 hw
      rw [he hbasic, ← ih ht hw rfl]

/-- A settled text that becomes a basic word in lower case is this word. -/
theorem eq_of_lower_eq {t w : Text} (ht : ∀ c ∈ t, Settled c) (hw : ∀ d ∈ w, IsBasic d)
    (h : lower t = w) : t = w :=
  eq_of_lowerAfter_eq ht hw h

end Lower

section Upper

/-- The characters outside the basic set whose capitals are basic letters, with these capitals. -/
def foreignCapitals : List (Char × Text) :=
  [('\u00DF', "SS".toList), ('\u0131', "I".toList), ('\u017F', "S".toList),
   ('\uFB00', "FF".toList), ('\uFB01', "FI".toList), ('\uFB02', "FL".toList),
   ('\uFB03', "FFI".toList), ('\uFB04', "FFL".toList), ('\uFB05', "ST".toList),
   ('\uFB06', "ST".toList)]

/-- Whether a character is a basic capital. -/
def IsCapital (c : Char) : Prop :=
  65 ≤ c.toNat ∧ c.toNat ≤ 90

/-- Whether a character is a basic small letter. -/
def IsSmall (c : Char) : Prop :=
  97 ≤ c.toNat ∧ c.toNat ≤ 122

instance (c : Char) : Decidable (IsCapital c) :=
  inferInstanceAs (Decidable (_ ∧ _))

instance (c : Char) : Decidable (IsSmall c) :=
  inferInstanceAs (Decidable (_ ∧ _))

theorem upperRuns_images : ∀ run ∈ upperRuns, 91 ≤ run.2.2.2 ∨
    (run.1 = run.2.1 ∧ (Char.ofNat run.1, [Char.ofNat run.2.2.2]) ∈ foreignCapitals) := by
  decide +kernel

theorem upperExpansions_images : ∀ e ∈ upperExpansions,
    (∀ n ∈ e.2, IsCapital (Char.ofNat n)) →
      (Char.ofNat e.1, e.2.map Char.ofNat) ∈ foreignCapitals := by
  decide +kernel

/-- A settled character whose capitals are basic letters is a small basic letter or one of the
listed ones. -/
theorem capitals_cases {c : Char} (hc : Settled c) (h : ∀ d ∈ upperChar c, IsCapital d) :
    (IsSmall c ∧ upperChar c = [c.toUpper]) ∨ (c, upperChar c) ∈ foreignCapitals := by
  by_cases hascii : c.toNat < 128
  · have hupper : upperChar c = [c.toUpper] := by rw [upperChar, if_pos hascii]
    rw [hupper] at h
    refine Or.inl ⟨?_, hupper⟩
    exact forall_ascii
      (fun c => (c.toNat < 65 ∨ 90 < c.toNat) → IsCapital c.toUpper → IsSmall c) (by decide) hascii
      hc.1 (h _ (List.mem_singleton_self _))
  · have hupper : upperChar c = mapped upperRuns upperExpansions c := by
      rw [upperChar, if_neg hascii]
    right
    rw [hupper] at h ⊢
    rcases mapped_cases upperRuns upperExpansions c with
      ⟨ns, hns, hmapped⟩ | ⟨first, last, step, image, hrun, hfirst, hlast, hmapped⟩ | hmapped
    · rw [hmapped] at h ⊢
      have hlisted := upperExpansions_images _ hns fun n hn => h _ (List.mem_map_of_mem hn)
      rwa [Char.ofNat_toNat] at hlisted
    · rw [hmapped] at h ⊢
      have hcap := h _ (List.mem_singleton_self _)
      have hnum := toNat_ofNat_of_pos (Nat.lt_of_lt_of_le (by decide) hcap.1)
      rcases upperRuns_images _ hrun with hafter | ⟨hone, hlisted⟩
      · simp only at hafter
        obtain ⟨-, hle⟩ := hcap
        omega
      · simp only at hone hlisted
        obtain rfl : first = c.toNat := by omega
        rw [Nat.sub_self, Nat.add_zero]
        rwa [Char.ofNat_toNat] at hlisted
    · rw [hmapped] at h
      have hcap := h _ (List.mem_singleton_self _)
      obtain ⟨-, hle⟩ := hcap
      omega

end Upper

end Text

end ApiAtlas
