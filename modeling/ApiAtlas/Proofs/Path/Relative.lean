import ApiAtlas.Path
import Mathlib.Data.List.Basic

/-!
# Paths below a folder

**Input.** The text of a project's root folder, which may be missing, and the text of a source
path.

**Definitions.** `IsStep` are the texts that can be parts of a path, and `Normal` the paths that
have no other parts.  A path `LiesIn` a folder when it starts where the folder starts and its first
parts are those of the folder.  `ShowsFrom` says that a text shows a path as seen from a folder.

**Results.**
* `ofText_toText`: a normal path is read back from its text.
* `relativeTo?_eq_some_iff`: what remains of a path below a folder is the relative path that leads
  from the folder to it.
* `relativeSource_shows`: a source path is shown as seen from the root folder when it lies there,
  and left as it is otherwise.
-/

namespace ApiAtlas

namespace Path

section Spelling

/-- Whether a text can be a part of a path: no slash divides it, and it is neither empty nor the
current folder.  It may be `..`. -/
structure IsStep (t : Text) : Prop where
  unbroken : '/' ∉ t
  counts : isPart t = true

/-- Whether all parts of a path can be parts. -/
def Normal (p : Path) : Prop :=
  ∀ t ∈ p.parts, IsStep t

variable {steps : List Text}

theorem IsStep.ne_nil {t : Text} (h : IsStep t) : t ≠ [] := by
  rintro rfl
  exact absurd h.counts (by decide)

theorem normal_ofText (t : Text) : (ofText t).Normal := by
  intro part hpart
  obtain ⟨hpiece, hcounts⟩ := List.mem_filter.1 hpart
  exact ⟨Text.not_mem_of_mem_pieces hpiece, hcounts⟩

theorem head?_join_steps (h : ∀ t ∈ steps, IsStep t) :
    (Text.join ['/'] steps).head? ≠ some '/' := by
  cases steps with
  | nil => simp
  | cons t ts =>
      have ht := h t (List.mem_cons_self ..)
      obtain ⟨c, t, rfl⟩ := List.exists_cons_of_ne_nil ht.ne_nil
      have hc : c ≠ '/' := by
        rintro rfl
        exact ht.unbroken (List.mem_cons_self ..)
      cases ts with
      | nil => simpa using hc
      | cons u us => simpa [Text.join] using hc

theorem filter_pieces_join_steps (h : ∀ t ∈ steps, IsStep t) :
    (Text.pieces '/' (Text.join ['/'] steps)).filter isPart = steps := by
  cases steps with
  | nil => decide
  | cons t ts =>
      rw [Text.pieces_join (by simp) fun u hu => (h u hu).unbroken, List.filter_eq_self]
      exact fun u hu => (h u hu).counts

/-- Slashes in front only say where a path starts. -/
theorem ofText_slashes_append (a : Anchor) {t : Text} (h : t.head? ≠ some '/') :
    ofText (a.slashes ++ t) = ⟨a, (t.pieces '/').filter isPart⟩ := by
  have hstart : t.takeWhile (· == '/') = [] := by
    cases t with
    | nil => rfl
    | cons c t => exact List.takeWhile_cons_of_neg (by simpa using h)
  cases a with
  | relative => simp [ofText, Anchor.slashes, Anchor.ofSlashes, hstart]
  | root => simp [ofText, Anchor.slashes, Anchor.ofSlashes, hstart, Text.pieces, isPart]
  | doubleRoot => simp [ofText, Anchor.slashes, Anchor.ofSlashes, hstart, Text.pieces, isPart]

theorem ofText_join_steps (a : Anchor) (h : ∀ t ∈ steps, IsStep t) :
    ofText (a.slashes ++ Text.join ['/'] steps) = ⟨a, steps⟩ := by
  rw [ofText_slashes_append a (head?_join_steps h), filter_pieces_join_steps h]

/-- A normal path is read back from its text. -/
theorem ofText_toText {p : Path} (h : p.Normal) : ofText p.toText = p := by
  obtain ⟨anchor, parts⟩ := p
  rw [toText]
  split
  · next hanchor hparts =>
      obtain ⟨rfl, rfl⟩ : anchor = .relative ∧ parts = [] := ⟨hanchor, hparts⟩
      decide
  · exact ofText_join_steps anchor h

end Spelling

section Below

theorem append_of_relative {p q : Path} (hq : q.isAbsolute = false) :
    p ++ q = ⟨p.anchor, p.parts ++ q.parts⟩ := by
  change append p q = _
  rw [append, hq]
  rfl

theorem append_of_absolute {p q : Path} (hq : q.isAbsolute = true) : p ++ q = q := by
  change append p q = _
  rw [append, hq]
  rfl

theorem cutParts_eq_some_iff {bs ps rest : List Text} :
    relativeTo?.cutParts bs ps = some rest ↔ ps = bs ++ rest := by
  induction bs generalizing ps with
  | nil => simp [relativeTo?.cutParts]
  | cons b bs ih =>
      cases ps with
      | nil => simp [relativeTo?.cutParts]
      | cons p ps =>
          by_cases hb : b = p
          · simp [relativeTo?.cutParts, hb, ih]
          · simp [relativeTo?.cutParts, hb, Ne.symm hb]

/-- What remains of a path below a folder is the relative path that leads from the folder to it. -/
theorem relativeTo?_eq_some_iff {p base q : Path} :
    p.relativeTo? base = some q ↔ q.isAbsolute = false ∧ base ++ q = p := by
  obtain ⟨anchor, parts⟩ := p
  obtain ⟨start, names⟩ := q
  constructor
  · intro h
    rw [relativeTo?] at h
    split at h
    · next hanchor =>
        obtain ⟨rest, hrest, hq⟩ := Option.map_eq_some_iff.1 h
        obtain ⟨rfl, rfl⟩ : Anchor.relative = start ∧ rest = names := by simpa using hq
        refine ⟨rfl, ?_⟩
        rw [append_of_relative rfl]
        simp only [mk.injEq]
        exact ⟨hanchor.symm, (cutParts_eq_some_iff.1 hrest).symm⟩
    · simp at h
  · rintro ⟨hq, h⟩
    have hstart : start = .relative := by simpa [isAbsolute] using hq
    rw [append_of_relative hq] at h
    obtain ⟨hanchor, hparts⟩ : base.anchor = anchor ∧ base.parts ++ names = parts := by
      simpa using h
    rw [relativeTo?, if_pos hanchor.symm, cutParts_eq_some_iff.2 hparts.symm, hstart]
    rfl

/-- Whether a path lies in a folder: it starts where the folder starts, and its first parts are
those of the folder. -/
def LiesIn (p base : Path) : Prop :=
  base.anchor = p.anchor ∧ base.parts <+: p.parts

theorem liesIn_iff {p base : Path} :
    p.LiesIn base ↔ ∃ q : Path, p.relativeTo? base = some q := by
  constructor
  · rintro ⟨hanchor, rest, hrest⟩
    refine ⟨⟨.relative, rest⟩, relativeTo?_eq_some_iff.2 ⟨rfl, ?_⟩⟩
    rw [append_of_relative rfl, hanchor, hrest]
  · rintro ⟨q, hq⟩
    obtain ⟨hrel, rfl⟩ := relativeTo?_eq_some_iff.1 hq
    rw [append_of_relative hrel]
    exact ⟨rfl, List.prefix_append ..⟩

theorem Normal.of_append {base q : Path} (h : (base ++ q).Normal) (hq : q.isAbsolute = false) :
    q.Normal := by
  intro t ht
  rw [append_of_relative hq] at h
  exact h t (List.mem_append_right _ ht)

/-- How a text shows a path as seen from the folder `base`. -/
structure ShowsFrom (base p : Path) (shown : Text) : Prop where
  /-- The text is a relative path. -/
  relative : (ofText shown).isAbsolute = false
  /-- It is written as paths are written. -/
  written : (ofText shown).toText = shown
  /-- It leads from the folder to the path. -/
  rejoined : base ++ ofText shown = p
  /-- It stays in the folder only for the folder itself. -/
  here : shown = ['.'] ↔ p = base

/-- What remains of a normal path below a folder shows it from there. -/
theorem showsFrom_toText {p base q : Path} (hp : p.Normal) (hq : p.relativeTo? base = some q) :
    ShowsFrom base p q.toText := by
  obtain ⟨hrel, rfl⟩ := relativeTo?_eq_some_iff.1 hq
  have hread : ofText q.toText = q := ofText_toText (hp.of_append hrel)
  constructor
  case relative => rw [hread, hrel]
  case written => rw [hread]
  case rejoined => rw [hread]
  case here =>
    have hbase : base ++ q = base ↔ q.parts = [] := by
      rw [append_of_relative hrel]
      obtain ⟨anchor, parts⟩ := base
      simp
    rw [hbase]
    constructor
    · intro hdot
      rw [hdot] at hread
      rw [← hread]
      rfl
    · intro hparts
      have hanchor : q.anchor = .relative := by simpa [isAbsolute] using hrel
      rw [toText, hanchor, hparts]

/-- A source path that lies in the root folder is shown as seen from there; any other source path,
and every one when there is no root folder, is left as it is. -/
theorem relativeSource_shows (root : Option Text) (source : Text) :
    (∀ base, root = some base → base ≠ [] → source ≠ [] →
      ((ofText source).LiesIn (ofText base) →
        ShowsFrom (ofText base) (ofText source) (relativeSource (rootFolder? root) source)) ∧
      (¬ (ofText source).LiesIn (ofText base) →
        relativeSource (rootFolder? root) source = source)) ∧
    (root = none ∨ root = some [] ∨ source = [] →
      relativeSource (rootFolder? root) source = source) := by
  constructor
  · rintro base rfl hbase hsource
    have hroot : rootFolder? (some base) = some (ofText base) := by simp [rootFolder?, hbase]
    have hshown : relativeSource (some (ofText base)) source =
        ((ofText source).relativeTo? (ofText base)).elim source toText := by
      simp [relativeSource, hsource]
    rw [hroot, hshown]
    constructor
    · intro hin
      obtain ⟨q, hq⟩ := liesIn_iff.1 hin
      rw [hq]
      exact showsFrom_toText (normal_ofText source) hq
    · intro hout
      have hnone : (ofText source).relativeTo? (ofText base) = none :=
        Option.eq_none_iff_forall_ne_some.2 fun q hq => hout (liesIn_iff.2 ⟨q, hq⟩)
      rw [hnone]
      rfl
  · rintro (rfl | rfl | rfl)
    · rfl
    · rfl
    · cases hroot : rootFolder? root with
      | none => rfl
      | some base => rfl

/-- A source path that enters the root folder and leads up again lies there by its parts.  One in a
folder whose name only begins like that of the root folder does not. -/
theorem nearRoot_shows :
    relativeSource (rootFolder? (some "/work/./Shapes/".toList))
        "/work//Shapes/../Other/a".toList = "../Other/a".toList ∧
      ShowsFrom (ofText "/work/./Shapes/".toList) (ofText "/work//Shapes/../Other/a".toList)
        "../Other/a".toList ∧
      relativeSource (rootFolder? (some "/work/./Shapes/".toList)) "/work/Shapes2//a".toList =
        "/work/Shapes2//a".toList := by
  have hshown : relativeSource (rootFolder? (some "/work/./Shapes/".toList))
      "/work//Shapes/../Other/a".toList = "../Other/a".toList := by
    decide
  have hin := ((relativeSource_shows (some "/work/./Shapes/".toList)
    "/work//Shapes/../Other/a".toList).1 _ rfl (by decide) (by decide)).1 (by unfold LiesIn; decide)
  have hout := ((relativeSource_shows (some "/work/./Shapes/".toList)
    "/work/Shapes2//a".toList).1 _ rfl (by decide) (by decide)).2 (by unfold LiesIn; decide)
  rw [hshown] at hin
  exact ⟨hshown, hin, hout⟩

end Below

end Path

end ApiAtlas
