import ApiAtlas.Markup.Build
import ApiAtlas.Proofs.Markup.Checksum
import ApiAtlas.Proofs.Markup.Links
import Mathlib.Data.List.Nodup

/-!
# What the markers of a document refer to

**Input.** A markup tree and a registry.

**Definitions.** A link writes its `marker` after its text, and a marker is looked up in the lines
below the document, where the first definition counts (`resolve?`).  A document is `Unambiguous`
when no marker is defined twice and every marker leads to the target of its link.

**Results.**
* `resolve?_definition`: a marker leads to the first target that has its number.
* `unambiguous_iff`: a document is unambiguous exactly when its targets have different numbers.
* `unambiguous_of_near`: so it is when its targets are near each other.
* `finalizeWith_markers`: what this says of a whole document.
* `collidingLinks_ambiguous`: targets that are further apart may share a number, and then the
  marker of the second leads to the first.
-/

namespace ApiAtlas

theorem Text.ofNat_inj {m n : Nat} : Text.ofNat m = Text.ofNat n ↔ m = n := by
  constructor
  · intro h
    calc m = Nat.ofDigitChars 10 (Text.ofNat m) 0 := Nat.ofDigitChars_ten_toDigits.symm
      _ = Nat.ofDigitChars 10 (Text.ofNat n) 0 := by rw [h]
      _ = n := Nat.ofDigitChars_ten_toDigits
  · rintro rfl
    rfl

namespace Markup

open Link

section Markers

/-- What a link writes after its text. -/
def marker (u : Text) : Text :=
  linkMark .reference { link := some u }

/-- The marker that a line defines. -/
def definedMarker (line : Text) : Text :=
  line.takeWhile (· != ':')

/-- The target of a marker: what the first line that defines the marker says. -/
def resolve? (lines : List Text) (mark : Text) : Option Text :=
  lines.findSome? (Text.cut? (mark ++ [':']))

theorem marker_inj {u v : Text} : marker u = marker v ↔ reference u = reference v := by
  simp [marker, linkMark, Text.ofNat_inj]

theorem definition_eq (u : Text) : definition u = marker u ++ ':' :: u := by
  simp [definition, marker, linkMark]

theorem definedMarker_append (u t : Text) : definedMarker (marker u ++ ':' :: t) = marker u := by
  have hmarker : ∀ c ∈ marker u, (c != ':') = true := by
    intro c hc
    simp only [marker, linkMark, List.cons_append, List.mem_cons, List.mem_append,
      List.not_mem_nil, or_false] at hc
    rcases hc with rfl | hdigit | rfl
    · decide
    · rw [bne_iff_ne]
      rintro rfl
      exact absurd (Nat.isDigit_of_mem_toDigits (by decide) (by decide) hdigit) (by decide)
    · decide
  rw [definedMarker, List.takeWhile_append_of_pos hmarker]
  simp

@[simp] theorem definedMarker_definition (u : Text) : definedMarker (definition u) = marker u := by
  rw [definition_eq, definedMarker_append]

theorem cut?_definition (u v : Text) :
    Text.cut? (marker u ++ [':']) (definition v) =
      if reference v = reference u then some v else none := by
  split
  · have hline : definition v = marker u ++ [':'] ++ v := by
      rw [definition_eq, marker_inj.2 ‹_›]
      simp
    rw [hline, Text.cut?_append]
  · rw [Option.eq_none_iff_forall_ne_some]
    intro t ht
    have hline : definition v = marker u ++ ':' :: t := by
      rw [Text.eq_append_of_cut? ht]
      simp
    have hmarker : marker v = marker u := by
      rw [← definedMarker_definition v, hline, definedMarker_append]
    exact absurd (marker_inj.1 hmarker) ‹_›

/-- A marker leads to the first target that has its number. -/
theorem resolve?_definition (us : List Text) (u : Text) :
    resolve? (us.map definition) (marker u) =
      us.find? (fun v => decide (reference v = reference u)) := by
  induction us with
  | nil =>
      rfl
  | cons v us ih =>
      rw [resolve?, List.map_cons, List.findSome?_cons, cut?_definition, List.find?_cons]
      by_cases hv : reference v = reference u
      · simp [hv]
      · simpa [hv, resolve?] using ih

end Markers

section Documents

variable (n : Node) (r : Registry)

/-- The markers below a document: none is defined twice, and each leads to the target of its
link. -/
structure Unambiguous : Prop where
  once : ((definitionLines n r).map definedMarker).Nodup
  resolves : ∀ u ∈ linksWith n r, resolve? (definitionLines n r) (marker u) = some u

theorem map_definedMarker_definitionLines :
    (definitionLines n r).map definedMarker = (Text.distinct (linksWith n r)).map marker := by
  simp [definitionLines, Function.comp_def]

theorem nodup_markers_iff :
    ((definitionLines n r).map definedMarker).Nodup ↔
      ∀ u ∈ linksWith n r, ∀ v ∈ linksWith n r, reference u = reference v → u = v := by
  rw [map_definedMarker_definitionLines, List.nodup_map_iff_inj_on (Text.nodup_distinct _)]
  simp only [Text.mem_distinct, marker_inj]

theorem resolve?_definitionLines {u : Text}
    (hinj : ∀ v ∈ linksWith n r, reference v = reference u → v = u) (hu : u ∈ linksWith n r) :
    resolve? (definitionLines n r) (marker u) = some u := by
  rw [definitionLines, resolve?_definition]
  cases hfind : (Text.distinct (linksWith n r)).find?
      (fun v => decide (reference v = reference u)) with
  | none =>
      have hnone := List.find?_eq_none.1 hfind u (Text.mem_distinct.2 hu)
      simp at hnone
  | some v =>
      have hv := Text.mem_distinct.1 (List.mem_of_find?_eq_some hfind)
      have hnumber : reference v = reference u := by
        simpa using List.find?_some hfind
      rw [hinj v hv hnumber]

/-- Markers are unambiguous exactly when the targets have different numbers. -/
theorem unambiguous_iff : Unambiguous n r ↔
    ∀ u ∈ linksWith n r, ∀ v ∈ linksWith n r, reference u = reference v → u = v := by
  constructor
  · intro h
    exact (nodup_markers_iff n r).1 h.once
  · intro hinj
    constructor
    · exact (nodup_markers_iff n r).2 hinj
    · intro u hu
      exact resolve?_definitionLines n r (fun v hv h => hinj v hv u hu h) hu

theorem unambiguous_of_near
    (hnear : ∀ u ∈ linksWith n r, ∀ v ∈ linksWith n r, Near u v) : Unambiguous n r := by
  rw [unambiguous_iff]
  intro u hu v hv h
  exact reference_inj_of_near (hnear u hu v hv) h

/-- The lines below a document, the target of every marker, and when the markers are
unambiguous. -/
theorem finalizeWith_markers :
    (finalizeWith n r).1 =
        (render .reference 0 n).text ++ '\n' :: Text.join ['\n'] (definitionLines n r) ∧
      (∀ u, resolve? (definitionLines n r) (marker u) =
        (Text.distinct (linksWith n r)).find? (fun v => decide (reference v = reference u))) ∧
      (Unambiguous n r ↔
        ∀ u ∈ linksWith n r, ∀ v ∈ linksWith n r, reference u = reference v → u = v) ∧
      ((∀ u ∈ linksWith n r, ∀ v ∈ linksWith n r, Near u v) → Unambiguous n r) :=
  ⟨finalizeWith_fst n r, resolve?_definition _, unambiguous_iff n r, unambiguous_of_near n r⟩

end Documents

section Runs

/-- Links to pages that differ in one character, in a document and in its registry. -/
def nearLinks : Node × Registry :=
  (document [link "First".toList "page-1.html".toList, link "Second".toList "page-2.html".toList],
    Registry.empty.register "page-3.html".toList)

theorem nearLinks_unambiguous : Unambiguous nearLinks.1 nearLinks.2 := by
  apply (finalizeWith_markers nearLinks.1 nearLinks.2).2.2.2
  have hshape : ∀ u ∈ linksWith nearLinks.1 nearLinks.2, ∃ b : UInt8, Encoding.encode8 u =
      Encoding.encode8 "page-".toList ++ [b] ++ Encoding.encode8 ".html".toList := by
    have hlinks : linksWith nearLinks.1 nearLinks.2 =
        ["page-1.html".toList, "page-2.html".toList, "page-3.html".toList] := by
      decide +kernel
    rw [hlinks]
    simp only [List.forall_mem_cons]
    exact ⟨⟨49, by decide +kernel⟩, ⟨50, by decide +kernel⟩, ⟨51, by decide +kernel⟩, by simp⟩
  intro u hu v hv
  obtain ⟨a, ha⟩ := hshape u hu
  obtain ⟨b, hb⟩ := hshape v hv
  exact ⟨_, [a], [b], _, ha, hb, rfl, by simp⟩

/-- Links to two pages that share a number. -/
def collidingLinks : Node :=
  document [link "First".toList "plumless.html".toList,
    link "Second".toList "buckeroo.html".toList]

/-- The marker of the second link leads to the first page. -/
theorem collidingLinks_ambiguous :
    linksWith collidingLinks Registry.empty = ["plumless.html".toList, "buckeroo.html".toList] ∧
      resolve? (definitionLines collidingLinks Registry.empty) (marker "buckeroo.html".toList) =
        some "plumless.html".toList ∧
      ¬ Unambiguous collidingLinks Registry.empty := by
  have hlinks : linksWith collidingLinks Registry.empty =
      ["plumless.html".toList, "buckeroo.html".toList] := by
    decide +kernel
  have hfirst : resolve? (definitionLines collidingLinks Registry.empty)
      (marker "buckeroo.html".toList) = some "plumless.html".toList := by
    decide +kernel
  refine ⟨hlinks, hfirst, ?_⟩
  intro h
  have hsecond := h.resolves "buckeroo.html".toList (by simp [hlinks])
  rw [hfirst] at hsecond
  exact absurd hsecond (by decide)

end Runs

end Markup

end ApiAtlas
