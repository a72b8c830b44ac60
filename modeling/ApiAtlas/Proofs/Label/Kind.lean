import ApiAtlas.Kind
import ApiAtlas.Proofs.Text.Case
import ApiAtlas.Proofs.Text.Trim

/-!
# Kinds and the labels that show them

**Input.** Any text as the label of a kind.

**Definitions.** `Kind.spaced` is the readable form of a qualified name, with spaces for its dots.
The form is `Readable` when it has no blanks at its ends and is neither of the two spellings with a
space that name a kind of the closed set.

**Results.**
* `parse_spaced`: how the readable form of a name is read.
* `parse_label_parse_iff`: the label of a kind that was read is read as the same kind, unless it is
  the readable form of an unlisted name and not `Readable`.
-/

namespace ApiAtlas

namespace Kind

open Text

section Spaced

/-- The readable form of a name, with spaces for its dots. -/
def spaced (name : Text) : Text :=
  replaceChar '.' [' '] name

theorem dot_not_mem_spaced (name : Text) : '.' ∉ spaced name := by
  rw [spaced, replaceChar_singleton]
  intro h
  obtain ⟨c, -, hc⟩ := List.mem_map.1 h
  split at hc
  · exact absurd hc (by decide)
  · next hne => exact hne hc

theorem settled_spaced {name : Text} (h : ∀ c ∈ name, Settled c) : ∀ c ∈ spaced name, Settled c := by
  rw [spaced, replaceChar_singleton]
  intro c hc
  obtain ⟨b, hb, rfl⟩ := List.mem_map.1 hc
  split
  · decide
  · exact h b hb

/-- A readable form without spaces is the name itself. -/
theorem spaced_eq_self {name : Text} (h : ' ' ∉ spaced name) : spaced name = name := by
  have hdot : '.' ∉ name := by
    intro hmem
    apply h
    rw [spaced, replaceChar_singleton]
    exact List.mem_map.2 ⟨'.', hmem, rfl⟩
  rw [spaced, replaceChar_singleton]
  refine (List.map_congr_left fun c hc => if_neg ?_).trans (List.map_id name)
  rintro rfl
  exact hdot hc

end Spaced

section Reading

variable {label name : Text}

/-- Blanks around a label do not matter. -/
theorem parse_strip (label : Text) : parse label.strip = parse label := by
  simp only [parse, strip_strip]

theorem parse_of_bare (h : cut? qualifier label.strip.lower = none) :
    parse label = (spellings.lookup label.strip.lower).getD (.other label.strip) := by
  simp only [parse, h]

theorem parse_of_qualified (h : cut? qualifier label.strip.lower = some name) :
    parse label = (spellings.lookup name).getD (.other (spaced name)) := by
  simp only [parse, h, spaced]

end Reading

section Spellings

variable {t : Text} {k : Kind}

theorem mem_spellings (h : spellings.lookup t = some k) : (t, k) ∈ spellings := by
  obtain ⟨before, after, hsplit, -⟩ := List.lookup_eq_some_iff.1 h
  simp [hsplit]

/-- Spellings are basic words in lower case. -/
theorem spellings_basic {e : Text × Kind} (he : e ∈ spellings) :
    (∀ c ∈ e.1, IsBasic c) ∧ e.1.lower = e.1 := by
  have hall : ∀ e ∈ spellings, e.1.all (fun c => IsBasic c ∧ Settled c) = true := by
    decide +kernel
  have hchars : ∀ c ∈ e.1, IsBasic c ∧ Settled c := fun c hc =>
    of_decide_eq_true (List.all_eq_true.1 (hall e he) c hc)
  exact ⟨fun c hc => (hchars c hc).1, lower_eq_self hchars⟩

/-- The label of a kind that has a spelling is read as the kind, and has no blanks at its ends. -/
theorem parse_label_spellings {e : Text × Kind} (he : e ∈ spellings) :
    parse e.2.label = e.2 ∧ e.2.label.strip = e.2.label := by
  have hall : ∀ e ∈ spellings, e.2.label.all (fun c => IsBasic c ∧ Settled c) = true ∧
      e.2.label.strip = e.2.label ∧ cut? qualifier e.2.label = none ∧
      (spellings.lookup e.2.label).getD (.other e.2.label) = e.2 := by
    decide +kernel
  obtain ⟨hchars, hstrip, hbare, hlookup⟩ := hall e he
  have hlower : e.2.label.strip.lower = e.2.label := by
    rw [hstrip]
    exact lower_eq_self fun c hc => of_decide_eq_true (List.all_eq_true.1 hchars c hc)
  refine ⟨?_, hstrip⟩
  rw [parse_of_bare (by rwa [hlower]), hlower, hstrip, hlookup]

/-- A spelling with a space shows its kind, apart from two. -/
theorem spellings_spaced : ∀ e ∈ spellings, ' ' ∈ e.1 →
    e.1 ∉ ["global func".toList, "type alias".toList] → e.2 = .other e.1 := by
  decide +kernel

/-- Lower case makes no spelling of a settled text that is none. -/
theorem lookup_lower (ht : ∀ c ∈ t, Settled c) :
    spellings.lookup t.lower = spellings.lookup t := by
  cases hlower : spellings.lookup t.lower with
  | some k =>
      have hbasic := (spellings_basic (mem_spellings hlower)).1
      rw [eq_of_lower_eq ht hbasic rfl, hlower]
  | none =>
      cases hself : spellings.lookup t with
      | none => rfl
      | some k =>
          rw [(spellings_basic (mem_spellings hself)).2, hself] at hlower
          exact absurd hlower (by simp)

end Spellings

section RoundTrip

variable {name : Text}

/-- The readable form of a name is never taken for a qualified label. -/
theorem parse_spaced (hname : ∀ c ∈ name, Settled c) :
    parse (spaced name) =
      (spellings.lookup (spaced name).strip).getD (.other (spaced name).strip) := by
  have hsettled : ∀ c ∈ (spaced name).strip, Settled c := fun c hc =>
    settled_spaced hname c ((strip_isInfix _).subset hc)
  have hbare : cut? qualifier (spaced name).strip.lower = none := by
    cases hcut : cut? qualifier (spaced name).strip.lower with
    | none => rfl
    | some rest =>
        have hdot : '.' ∈ (spaced name).strip.lower := by
          rw [eq_append_of_cut? hcut]
          exact List.mem_append_left _ (by decide)
        have hmem := mem_of_mem_lower hsettled hdot (by decide)
        exact absurd ((strip_isInfix _).subset hmem) (dot_not_mem_spaced name)
  rw [parse_of_bare hbare, lookup_lower hsettled]

/-- Whether the readable form of a name has no blanks at its ends and is neither of the two
spellings with a space that name a kind of the closed set. -/
def Readable (name : Text) : Prop :=
  (spaced name).strip = spaced name ∧
    spaced name ∉ ["global func".toList, "type alias".toList]

/-- The readable form of a name without a spelling shows the kind of the name exactly when it is
readable. -/
theorem parse_spaced_iff (hname : ∀ c ∈ name, Settled c) (hnone : spellings.lookup name = none) :
    parse (spaced name) = .other (spaced name) ↔ Readable name := by
  rw [parse_spaced hname]
  constructor
  · intro h
    have hstrip : (spaced name).strip = spaced name := by
      cases hlookup : spellings.lookup (spaced name).strip with
      | none =>
          rw [hlookup] at h
          exact Kind.other.inj h
      | some k =>
          rw [hlookup] at h
          obtain rfl : k = .other (spaced name) := h
          exact (parse_label_spellings (mem_spellings hlookup)).2
    refine ⟨hstrip, fun hmem => ?_⟩
    rw [hstrip] at h
    have hdecl : ∀ t ∈ ["global func".toList, "type alias".toList],
        (spellings.lookup t).getD (.other t) ≠ .other t := by
      decide
    exact hdecl _ hmem h
  · rintro ⟨hstrip, hmem⟩
    rw [hstrip]
    cases hlookup : spellings.lookup (spaced name) with
    | none => rfl
    | some k =>
        -- without a space it is the name itself, and that has no spelling
        by_cases hspace : ' ' ∈ spaced name
        · exact spellings_spaced _ (mem_spellings hlookup) hspace hmem
        · rw [spaced_eq_self hspace, hnone] at hlookup
          exact absurd hlookup (by simp)

/-- The label of a kind that was read is read as the same kind again.  The exceptions are qualified
labels whose name has no spelling of its own: the readable form that stands for such a name may have
blanks at its ends, or be a spelling of another kind. -/
theorem parse_label_parse_iff (label : Text) :
    parse (parse label).label = parse label ↔
      ∀ name, cut? qualifier label.strip.lower = some name → spellings.lookup name = none →
        Readable name := by
  cases hcut : cut? qualifier label.strip.lower with
  | none =>
      refine iff_of_true ?_ (by simp)
      rw [parse_of_bare hcut]
      cases hlookup : spellings.lookup label.strip.lower with
      | some k => exact (parse_label_spellings (mem_spellings hlookup)).1
      | none =>
          change parse label.strip = _
          rw [parse_strip, parse_of_bare hcut, hlookup]
  | some name =>
      have hname : ∀ c ∈ name, Settled c := by
        intro c hc
        have hmem : c ∈ label.strip.lower := by
          rw [eq_append_of_cut? hcut]
          exact List.mem_append_right _ hc
        exact settled_of_mem_lower hmem
      rw [parse_of_qualified hcut]
      cases hlookup : spellings.lookup name with
      | some k =>
          refine iff_of_true (parse_label_spellings (mem_spellings hlookup)).1 ?_
          rintro _ ⟨rfl⟩ hnone
          rw [hlookup] at hnone
          exact absurd hnone (by simp)
      | none =>
          change parse (spaced name) = .other (spaced name) ↔ _
          rw [parse_spaced_iff hname hlookup]
          constructor
          · rintro h _ ⟨rfl⟩ -
            exact h
          · intro h
            exact h name rfl hlookup

/-- A qualified label that is shown like the label of global functions. -/
def dottedGlobal : Text :=
  "source.lang.swift.decl.global.func".toList

/-- The label that is shown for the kind names another kind. -/
theorem dottedGlobal_changes :
    parse dottedGlobal = .other "global func".toList ∧
      parse (parse dottedGlobal).label = .decl .globalFunction ∧
      ¬ parse (parse dottedGlobal).label = parse dottedGlobal := by
  decide +kernel

end RoundTrip

end Kind

end ApiAtlas
