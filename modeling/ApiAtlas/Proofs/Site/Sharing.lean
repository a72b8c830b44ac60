import ApiAtlas.Proofs.Site.Confinement
import ApiAtlas.Proofs.Text.Slug

/-!
# Pages that share a file

**Input.** The documentation of a store, and entities with any titles and kinds.

**Definitions.** The page of an entity is in the folder of its kind, in a file that has its name
from the slug of the title.  Titles that are `Text.Alike` cannot be told apart by their slugs.

**Results.**
* `name_pathOf`: the name of the file of a page.
* `pathOf_eq_pathOf_iff`: two pages are in one place when their folders are the same and their
  titles alike.
* `sharing_iff`: what slugs look like, and which pages share a name or a place.
-/

namespace ApiAtlas

namespace Site

section Pages

variable (s : Site) {d e : Entity}

/-- The name of the file of a page, whatever folder it is in. -/
theorem name_pathOf (e : Entity) :
    (Path.ofText (s.pathOf e)).name = e.title.slug ++ s.ending := by
  have hfile : Path.IsStep (e.title.slug ++ s.ending) :=
    (isName_append_ending (isPageName_slug e.title).slash_not_mem s).isStep
  have hpiece : Text.pieces '/' (e.title.slug ++ s.ending) = [e.title.slug ++ s.ending] :=
    @Text.pieces_join '/' [e.title.slug ++ s.ending] (by simp) (by simpa using hfile.unbroken)
  rw [Path.name, Path.ofText, pathOf_eq, List.append_assoc, List.cons_append,
    Text.pieces_append_cons, hpiece]
  simp [hfile.counts]

theorem name_pathOf_eq_iff :
    (Path.ofText (s.pathOf d)).name = (Path.ofText (s.pathOf e)).name ↔
      Text.Alike d.title e.title := by
  rw [name_pathOf, name_pathOf, List.append_cancel_right_eq, Text.slug_eq_slug_iff]

/-- Two pages are in one place when their folders are the same and their titles alike: the folder
ends at the first slash. -/
theorem pathOf_eq_pathOf_iff :
    s.pathOf d = s.pathOf e ↔
      d.kind.label.lowerSlug = e.kind.label.lowerSlug ∧ Text.Alike d.title e.title := by
  constructor
  · intro h
    refine ⟨?_, (name_pathOf_eq_iff s).1 (congrArg (fun p => (Path.ofText p).name) h)⟩
    have hfolder : ∀ o : Entity,
        (s.pathOf o).takeWhile (· ≠ '/') = o.kind.label.lowerSlug := by
      intro o
      have hslash : '/' ∉ o.kind.label.lowerSlug :=
        (isPageName_slug o.kind.label.lower).slash_not_mem
      rw [pathOf_eq, List.append_assoc, List.takeWhile_append_of_pos]
      · simp
      · intro c hc
        simpa using ne_of_mem_of_not_mem hc hslash
    rw [← hfolder d, h, hfolder e]
  · rintro ⟨hfolder, htitle⟩
    rw [pathOf_eq, pathOf_eq, hfolder, Text.slug_eq_slug_iff.2 htitle]

end Pages

/-- Every slug is in its normal form, and pages share the name of a file when their titles have the
same runs of word characters and the same kinds of ends. -/
theorem sharing_iff :
    (∀ t : Text, Text.SlugForm t) ∧
      (∀ t u : Text, t.slug = u.slug ↔ Text.Alike t u) ∧
      ∀ (s : Site) (d e : Entity),
        ((Path.ofText (s.pathOf d)).name = (Path.ofText (s.pathOf e)).name ↔
          Text.Alike d.title e.title) ∧
        (s.pathOf d = s.pathOf e ↔
          d.kind.label.lowerSlug = e.kind.label.lowerSlug ∧ Text.Alike d.title e.title) :=
  ⟨Text.slugForm, fun _ _ => Text.slug_eq_slug_iff,
    fun s _ _ => ⟨name_pathOf_eq_iff s, pathOf_eq_pathOf_iff s⟩⟩

end Site

end ApiAtlas
