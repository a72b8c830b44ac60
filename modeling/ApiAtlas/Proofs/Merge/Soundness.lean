import ApiAtlas.Proofs.Merge.Origin
import ApiAtlas.Proofs.Record.Conversion

/-!
# What holds of a merged forest

**Input.** The top level of a forest, and the title of the project.

**Definitions.** `Grouped` says how containers and attached extensions stand in a forest.  `Sound`
is the same condition entry by entry: an entry from a record is `WellHosted` at every depth, and a
container is `WellFilled`.

**Results.**
* `Sound.grouped`: the condition entry by entry implies the condition on the forest.
* `Sound.append`: adding fresh entities preserves it.
* `Sound.internal`, `Sound.external`, `Sound.merge`: both passes of merging preserve it.
* `isSourceExtension_of_mem_external`: after grouping no extension is left at the top level.
-/

namespace ApiAtlas

namespace Merge

open Entity

section Defs

/-- How containers and attached extensions stand in the forest of a project. -/
structure Grouped (title : Text) (docs : List Entity) : Prop where
  /-- No two containers have one title. -/
  titles_nodup : (containerTitles docs).Nodup
  /-- Containers at the top level are open extensions of the project that hold extensions only. -/
  containers : ∀ d ∈ docs, d.profile.synthetic = true →
    d.kind = Kind.extensionOf ∧ d.access = .openAll ∧ d.children = [] ∧
      d.profile.sourceFile = title ∧ d.extensions ≠ []
  /-- There are no containers below the top level. -/
  below : ∀ d ∈ docs, ∀ e ∈ reachAll d.children ++ reachAll d.extensions,
    e.profile.synthetic = false
  /-- Extensions are attached to hosts and to containers at the top level. -/
  hosts : ∀ e ∈ reachAll docs, e.extensions ≠ [] →
    e.extendable = true ∨ e ∈ docs ∧ e.profile.synthetic = true
  /-- An attached extension comes from a record and has the title of what it is attached to. -/
  members : ∀ e ∈ reachAll docs, ∀ x ∈ e.extensions,
    x.isSourceExtension = true ∧ x.title = e.title

/-- Whether an entity was not made up, and has extensions of its title only, and only when it is a
host. -/
structure WellHosted (e : Entity) : Prop where
  natural : e.profile.synthetic = false
  host : e.extensions ≠ [] → e.extendable = true
  members : ∀ x ∈ e.extensions, isExtensionOf e.title x = true

/-- Whether an entity is a container of the project as grouping makes them. -/
structure WellFilled (title : Text) (c : Entity) : Prop where
  kind_eq : c.kind = Kind.extensionOf
  access_eq : c.access = .openAll
  children_eq : c.children = []
  sourceFile_eq : c.profile.sourceFile = title
  filled : c.extensions ≠ []
  members : ∀ x ∈ c.extensions, isExtensionOf c.title x = true ∧ ∀ e ∈ reach x, WellHosted e

/-- The condition on a forest, entry by entry. -/
structure Sound (title : Text) (docs : List Entity) : Prop where
  titles_nodup : (containerTitles docs).Nodup
  natural : ∀ d ∈ docs, d.profile.synthetic = false → ∀ e ∈ reach d, WellHosted e
  containers : ∀ d ∈ docs, d.profile.synthetic = true → WellFilled title d

end Defs

variable {title : Text} {docs : List Entity}

section Grouped

theorem synthetic_of_isSourceExtension {d : Entity} (h : d.isSourceExtension = true) :
    d.profile.synthetic = false := by
  cases hs : d.profile.synthetic with
  | false => rfl
  | true =>
      rw [isSourceExtension_of_synthetic hs] at h
      simp at h

/-- What stands below an entry of a sound forest. -/
theorem Sound.below (h : Sound title docs) {d e : Entity} (hd : d ∈ docs)
    (he : e ∈ reachAll d.children ++ reachAll d.extensions) : WellHosted e := by
  cases hs : d.profile.synthetic with
  | false =>
      apply h.natural d hd hs
      rw [reach_eq_cons]
      exact List.mem_cons_of_mem d he
  | true =>
      have hc := h.containers d hd hs
      rw [hc.children_eq, reachAll_nil, List.nil_append] at he
      obtain ⟨x, hx, hex⟩ := mem_reachAll.1 he
      exact (hc.members x hx).2 e hex

/-- What a sound forest reaches is well hosted, or is a container at the top level. -/
theorem Sound.reached (h : Sound title docs) {e : Entity} (he : e ∈ reachAll docs) :
    WellHosted e ∨ (e ∈ docs ∧ e.profile.synthetic = true) := by
  obtain ⟨d, hd, hed⟩ := mem_reachAll.1 he
  rw [reach_eq_cons, List.mem_cons] at hed
  rcases hed with rfl | hbelow
  · cases hs : e.profile.synthetic with
    | false => exact Or.inl (h.natural e hd hs e (mem_reach_self e))
    | true => exact Or.inr ⟨hd, rfl⟩
  · exact Or.inl (h.below hd hbelow)

/-- The condition entry by entry implies the condition on the forest. -/
theorem Sound.grouped (h : Sound title docs) : Grouped title docs := by
  constructor
  · exact h.titles_nodup
  · intro d hd hs
    have hc := h.containers d hd hs
    exact ⟨hc.kind_eq, hc.access_eq, hc.children_eq, hc.sourceFile_eq, hc.filled⟩
  · intro d hd e he
    exact (h.below hd he).natural
  · intro e he hext
    rcases h.reached he with hw | htop
    · exact Or.inl (hw.host hext)
    · exact Or.inr htop
  · intro e he x hx
    rcases h.reached he with hw | ⟨hd, hs⟩
    · exact isExtensionOf_iff.1 (hw.members x hx)
    · exact isExtensionOf_iff.1 ((h.containers e hd hs).members x hx).1

end Grouped

section Adding

theorem sound_nil : Sound title [] := by
  constructor
  · exact List.nodup_nil
  · intro d hd
    simp at hd
  · intro d hd
    simp at hd

theorem wellHosted_of_fresh {e : Entity} (h : Record.Fresh e) : WellHosted e := by
  obtain ⟨hext, hs⟩ := h
  refine ⟨hs, ?_, ?_⟩
  · intro hne
    exact absurd hext hne
  · intro x hx
    rw [hext] at hx
    simp at hx

/-- Fresh entities bring no containers and no attached extensions. -/
theorem Sound.append (h : Sound title docs) {es : List Entity}
    (hes : ∀ e ∈ reachAll es, Record.Fresh e) : Sound title (docs ++ es) := by
  have hfresh : ∀ d ∈ es, ∀ e ∈ reach d, Record.Fresh e := by
    intro d hd e he
    exact hes e (mem_reachAll.2 ⟨d, hd, he⟩)
  constructor
  · have hnone : containerTitles es = [] := by
      rw [containerTitles, List.map_eq_nil_iff, List.filter_eq_nil_iff]
      intro d hd
      rw [(hfresh d hd d (mem_reach_self d)).2]
      simp
    rw [containerTitles_append, hnone, List.append_nil]
    exact h.titles_nodup
  · intro d hd hs e he
    rcases List.mem_append.1 hd with hd | hd
    · exact h.natural d hd hs e he
    · exact wellHosted_of_fresh (hfresh d hd e he)
  · intro d hd hs
    rcases List.mem_append.1 hd with hd | hd
    · exact h.containers d hd hs
    · rw [(hfresh d hd d (mem_reach_self d)).2] at hs
      simp at hs

end Adding

section Folding

variable {everywhere : Bool}

/-- Gaining extensions of its own title keeps an entity well hosted. -/
theorem WellHosted.grown {e e' : Entity} (h : WellHosted e) (hg : Grown e e') :
    WellHosted e' := by
  obtain ⟨hbare, more, hext, hmore⟩ := hg
  have hp : e'.profile = e.profile := profile_eq_of_bare_eq hbare
  have ht : e'.title = e.title := congrArg Profile.title hp
  have hk : e'.extendable = e.extendable := congrArg (fun p => p.kind.extendable) hp
  constructor
  · rw [hp]
    exact h.natural
  · intro hne
    rw [hk]
    rw [hext] at hne
    by_cases hnew : more = []
    · rw [hnew, List.append_nil] at hne
      exact h.host hne
    · obtain ⟨x, hx⟩ := List.exists_mem_of_ne_nil more hnew
      exact (hmore x hx).1
  · intro x hx
    rw [ht]
    rw [hext, List.mem_append] at hx
    rcases hx with hx | hx
    · exact h.members x hx
    · exact (hmore x hx).2

/-- The extensions that an entry hosts, in one step or several, come from records, as the entry
itself does when it is no container. -/
theorem synthetic_of_hosted {i j : Fin docs.length} (hi : (entry docs i).profile.synthetic = false)
    (h : Relation.ReflTransGen (HostedBy everywhere docs) j i) :
    (entry docs j).profile.synthetic = false := by
  cases h using Relation.ReflTransGen.head_induction_on with
  | refl => exact hi
  | head hstep _ => exact synthetic_of_isSourceExtension hstep.1

/-- A rebuilt entry from a record is well hosted at every depth. -/
theorem Sound.wellHosted_rebuilt (h : Sound title docs) {i : Fin docs.length} {d : Entity}
    (hd : rebuiltAt everywhere docs i = some d) (hi : (entry docs i).profile.synthetic = false) :
    ∀ e ∈ reach d, WellHosted e := by
  intro e he
  obtain ⟨j, hji, f, hf, horigin⟩ := exists_origin docs.length hd he
  have hj := synthetic_of_hosted hi hji
  -- The entry where it comes from is an extension or the entry itself, so it is well hosted.
  have hwell := h.natural (entry docs j) (entry_mem docs j) hj
  have hreach : f ∈ reach (entry docs j) := mem_reach_of_mem_walk hf
  rcases horigin with hgrown | hold
  · exact (hwell f hreach).grown hgrown
  · rw [← reachAll_singleton] at hreach
    apply hwell e
    rw [← reachAll_singleton]
    exact reachAll_extensions_subset hreach hold

/-- A container is no host and nothing is nested in it, so folding leaves it alone. -/
theorem rebuiltAt_of_wellFilled {i : Fin docs.length} {d : Entity}
    (hi : WellFilled title (entry docs i)) (hd : rebuiltAt everywhere docs i = some d) :
    d = entry docs i := by
  have hext : (entry docs i).extendable = false := by
    rw [Entity.extendable, hi.kind_eq]
    rfl
  exact rebuild_eq_self hi.children_eq hext hd

/-- Folding preserves the condition. -/
theorem Sound.internal (h : Sound title docs) {folded : List Entity}
    (hf : internal? everywhere docs = some folded) : Sound title folded := by
  have hentry : ∀ d ∈ folded, ∃ i, rebuiltAt everywhere docs i = some d ∧
      d.profile.synthetic = (entry docs i).profile.synthetic := by
    intro d hd
    rw [internal?_eq_mapM_remaining] at hf
    obtain ⟨i, -, hi⟩ := exists_of_mem_mapM hf hd
    exact ⟨i, hi, congrArg Profile.synthetic (profile_eq_of_bare_eq (rebuild_bare hi))⟩
  constructor
  · rw [containerTitles_eq_map, map_profile_internal hf, ← containerTitles_eq_map]
    exact h.titles_nodup.sublist ((List.filter_sublist.filter _).map _)
  · intro d hd hs
    obtain ⟨i, hi, hsame⟩ := hentry d hd
    exact h.wellHosted_rebuilt hi (hsame ▸ hs)
  · intro d hd hs
    obtain ⟨i, hi, hsame⟩ := hentry d hd
    have hfilled := h.containers (entry docs i) (entry_mem docs i) (hsame ▸ hs)
    rw [rebuiltAt_of_wellFilled hfilled hi]
    exact hfilled

end Folding

section Grouping

variable {reversed : Bool}

/-- An extension of the top level of a sound forest is well hosted at every depth. -/
theorem Sound.mem_membersOf (h : Sound title docs) {t : Text} {x : Entity}
    (hx : x ∈ membersOf reversed docs t) :
    isExtensionOf t x = true ∧ ∀ e ∈ reach x, WellHosted e := by
  obtain ⟨hd, ht⟩ := Merge.mem_membersOf.1 hx
  have hs := synthetic_of_isSourceExtension (isExtensionOf_iff.1 ht).1
  exact ⟨ht, h.natural x hd hs⟩

/-- Grouping preserves the condition. -/
theorem Sound.external (h : Sound title docs) : Sound title (external title reversed docs) := by
  constructor
  · rw [containerTitles_external]
    refine List.nodup_append'.2 ⟨h.titles_nodup, nodup_newTitles docs, ?_⟩
    intro t ht
    exact not_mem_newTitles ht
  · intro d hd hs
    rcases mem_external hd with ⟨hdocs, -⟩ | ⟨c, -, hc, rfl⟩ | ⟨t, -, rfl⟩
    · exact h.natural d hdocs hs
    · rw [profile_extendBy, hc] at hs
      simp at hs
    · simp [container] at hs
  · intro d hd hs
    rcases mem_external hd with ⟨hdocs, -⟩ | ⟨c, hdocs, hc, rfl⟩ | ⟨t, hne, rfl⟩
    · exact h.containers d hdocs hs
    · have hfilled := h.containers c hdocs hc
      refine ⟨hfilled.kind_eq, hfilled.access_eq, hfilled.children_eq, hfilled.sourceFile_eq,
        ?_, ?_⟩
      · rw [extensions_extendBy]
        exact List.append_ne_nil_of_left_ne_nil hfilled.filled _
      · intro x hx
        rw [extensions_extendBy, List.mem_append] at hx
        rcases hx with hx | hx
        · exact hfilled.members x hx
        · exact h.mem_membersOf hx
    · exact ⟨rfl, rfl, rfl, rfl, hne, fun x hx => h.mem_membersOf hx⟩

/-- After grouping no extension is left at the top level. -/
theorem isSourceExtension_of_mem_external {d : Entity}
    (h : d ∈ external title reversed docs) : d.isSourceExtension = false := by
  rcases mem_external h with ⟨-, hext⟩ | ⟨c, -, hs, rfl⟩ | ⟨t, -, rfl⟩
  · exact hext
  · rw [isSourceExtension_extendBy]
    exact isSourceExtension_of_synthetic hs
  · exact isSourceExtension_of_synthetic rfl

end Grouping

end Merge

end ApiAtlas
