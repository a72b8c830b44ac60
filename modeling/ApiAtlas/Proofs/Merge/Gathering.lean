import ApiAtlas.Proofs.Merge.Grouping

/-!
# Grouping against its specification

**Input.** The top level of any forest, with any number of containers of one title.

**Definitions.** `settled` says what becomes of the entries that stay, each by its own place: an
entry that is the first container of its title gains the members of that title, and every other
entry is as it was.

**Results.**
* `fill_eq_mapIdx`: going through the entries with the titles seen so far is deciding each place by
  itself.
* `pairwise_extensionTitles`: the titles of extensions stand in the order of their first extensions.
* `external_onePass`: grouping title by title gives the entries that stay, settled, and then one new
  container for each title that had none.
-/

namespace ApiAtlas

namespace Merge

open Entity

/-- The entries that are no extensions, in order; the first container of each title has gained the
members of that title. -/
def settled (reversed : Bool) (docs : List Entity) : List Entity :=
  let rest := docs.filter fun d => !d.isSourceExtension
  rest.mapIdx fun k d =>
    if rest.findIdx? (isContainerOf d.title) = some k then
      d.extendBy (membersOf reversed docs d.title)
    else d

section Places

/-- The place of the first container of a title, when another entry is put before a list. -/
theorem findIdx?_cons_eq_succ {t : Text} {d : Entity} {ds : List Entity} {k : Nat} :
    (d :: ds).findIdx? (isContainerOf t) = some (k + 1) ↔
      isContainerOf t d = false ∧ ds.findIdx? (isContainerOf t) = some k := by
  rw [List.findIdx?_cons]
  cases hd : isContainerOf t d with
  | true => simp
  | false => simp

theorem findIdx?_cons_eq_zero {d : Entity} {ds : List Entity} :
    (d :: ds).findIdx? (isContainerOf d.title) = some 0 ↔ d.profile.synthetic = true := by
  rw [List.findIdx?_cons]
  cases hd : d.profile.synthetic with
  | true => simp [isContainerOf, hd]
  | false => simp [isContainerOf, hd]

/-- Going through a list with the titles seen so far is deciding each place by itself: a container is
filled when its title was not seen before and no container of its title stands before it. -/
theorem fill_eq_mapIdx (members : Text → List Entity) (seen : List Text) (ds : List Entity) :
    fill members seen ds =
      ds.mapIdx fun k d =>
        if d.title ∉ seen ∧ ds.findIdx? (isContainerOf d.title) = some k then
          d.extendBy (members d.title)
        else d := by
  induction ds generalizing seen with
  | nil =>
      rfl
  | cons d ds ih =>
      rw [List.mapIdx_cons]
      simp only [findIdx?_cons_eq_succ, findIdx?_cons_eq_zero]
      by_cases hd : d.profile.synthetic = true ∧ d.title ∉ seen
      · -- The rest must pass over the title of this container.
        have hrest : ∀ e : Entity, e.title ∉ d.title :: seen ↔
            e.title ∉ seen ∧ isContainerOf e.title d = false := by
          intro e
          simp only [List.mem_cons, not_or, isContainerOf, hd.1, Bool.true_and, beq_eq_false_iff_ne]
          constructor
          · rintro ⟨hne, hseen⟩
            exact ⟨hseen, Ne.symm hne⟩
          · rintro ⟨hseen, hne⟩
            exact ⟨Ne.symm hne, hseen⟩
        rw [fill_cons_of_pos hd, ih, if_pos ⟨hd.2, hd.1⟩]
        simp only [hrest, and_assoc]
      · -- This entry is no container, or one whose title was seen before.
        have hrest : ∀ e : Entity, e.title ∉ seen → isContainerOf e.title d = false := by
          intro e hseen
          rw [isContainerOf, Bool.and_eq_false_iff, beq_eq_false_iff_ne]
          by_cases hs : d.profile.synthetic = true
          · right
            intro heq
            exact hd ⟨hs, heq ▸ hseen⟩
          · exact Or.inl (by simpa using hs)
        have hcond : ∀ (e : Entity) (k : Nat),
            (e.title ∉ seen ∧ ds.findIdx? (isContainerOf e.title) = some k) ↔
              e.title ∉ seen ∧ isContainerOf e.title d = false ∧
                ds.findIdx? (isContainerOf e.title) = some k := by
          intro e k
          constructor
          · rintro ⟨hseen, hk⟩
            exact ⟨hseen, hrest e hseen, hk⟩
          · rintro ⟨hseen, -, hk⟩
            exact ⟨hseen, hk⟩
        have hhead : ¬ (d.title ∉ seen ∧ d.profile.synthetic = true) := fun h => hd h.symm
        rw [fill_cons_of_neg hd, ih, if_neg hhead]
        simp only [hcond]

theorem fill_eq_settled (reversed : Bool) (docs : List Entity) :
    fill (membersOf reversed docs) [] (docs.filter fun d => !d.isSourceExtension) =
      settled reversed docs := by
  rw [fill_eq_mapIdx, settled]
  simp only [List.not_mem_nil, not_false_eq_true, true_and]

end Places

section Titles

theorem extensionTitles_cons_of_pos {d : Entity} {docs : List Entity}
    (h : d.isSourceExtension = true) :
    extensionTitles (d :: docs) = d.title :: (extensionTitles docs).filter (· != d.title) := by
  rw [extensionTitles, List.filter_cons_of_pos h, List.map_cons, Text.distinct]
  rfl

theorem extensionTitles_cons_of_neg {d : Entity} {docs : List Entity}
    (h : d.isSourceExtension = false) :
    extensionTitles (d :: docs) = extensionTitles docs := by
  rw [extensionTitles, List.filter_cons_of_neg (by simp [h])]
  rfl

/-- The titles of extensions stand in the order of their first extensions at the top level. -/
theorem pairwise_extensionTitles (docs : List Entity) :
    (extensionTitles docs).Pairwise fun t u =>
      docs.findIdx (isExtensionOf t) < docs.findIdx (isExtensionOf u) := by
  induction docs with
  | nil =>
      exact List.Pairwise.nil
  | cons d docs ih =>
      cases hd : d.isSourceExtension with
      | true =>
          rw [extensionTitles_cons_of_pos hd, List.pairwise_cons]
          have hlater : ∀ u, u ≠ d.title → isExtensionOf u d = false := by
            intro u hu
            simp [isExtensionOf, Ne.symm hu]
          have hself : isExtensionOf d.title d = true := isExtensionOf_iff.2 ⟨hd, rfl⟩
          constructor
          · intro u hu
            have hne : u ≠ d.title := by simpa using (List.mem_filter.1 hu).2
            simp [List.findIdx_cons, hself, hlater u hne]
          · refine (ih.filter _).imp_of_mem ?_
            intro t u ht hu htu
            have htne : t ≠ d.title := by simpa using (List.mem_filter.1 ht).2
            have hune : u ≠ d.title := by simpa using (List.mem_filter.1 hu).2
            simp only [List.findIdx_cons, hlater t htne, hlater u hune, cond_false]
            omega
      | false =>
          rw [extensionTitles_cons_of_neg hd]
          refine ih.imp ?_
          intro t u htu
          have hno : ∀ v, isExtensionOf v d = false := by
            intro v
            simp [isExtensionOf, hd]
          simp only [List.findIdx_cons, hno, cond_false]
          omega

theorem mem_newTitles {t : Text} {docs : List Entity} :
    t ∈ newTitles docs ↔
      (∃ d ∈ docs, isExtensionOf t d = true) ∧ ∀ d ∈ docs, isContainerOf t d = false := by
  simp only [newTitles, List.mem_filter, mem_extensionTitles, isExtensionOf_iff,
    Bool.not_eq_true', List.any_eq_false, Bool.not_eq_true]

end Titles

/-- Grouping title by title is one pass: the entries that are no extensions, settled, and after them
one new container with its members for each title of an extension that no container had, in the
order of the first extensions. -/
theorem external_onePass (title : Text) (reversed : Bool) (docs : List Entity) :
    ∃ titles : List Text,
      external title reversed docs =
        settled reversed docs ++
          titles.map (fun t => container t title (membersOf reversed docs t)) ∧
      (∀ t, t ∈ titles ↔
        (∃ d ∈ docs, isExtensionOf t d = true) ∧ ∀ d ∈ docs, isContainerOf t d = false) ∧
      titles.Pairwise fun t u =>
        docs.findIdx (isExtensionOf t) < docs.findIdx (isExtensionOf u) := by
  refine ⟨newTitles docs, ?_, fun t => mem_newTitles, ?_⟩
  · rw [external_eq, fill_eq_settled]
  · exact (pairwise_extensionTitles docs).filter _

end Merge

end ApiAtlas
