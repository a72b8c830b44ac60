import ApiAtlas.Proofs.Merge.Origin

/-!
# The order of the top level

**Input.** Two top levels with the same entries in different orders, where every host takes up the
extensions of its title.

**Definitions.** `Reordered` relates two top levels with the same entries, in which the extensions
of each single title stand in the same order.

**Results.**
* `rebuild_everywhere`: when every host takes up extensions, the hosts before a tree do not matter,
  so nothing in a rebuilt tree depends on its place.
* `Reordered.supply_eq`: a title gets the same extensions from both top levels.
* `Reordered.internal`, `Reordered.external_perm`: folding keeps the relation, and grouping turns it
  into a permutation.
* `merge?_perm`: both passes together.
-/

namespace ApiAtlas

namespace Merge

open Entity

/-- Whether two top levels have the same entries, and the extensions of each title in the same
order. -/
structure Reordered (docs docs' : List Entity) : Prop where
  perm : docs'.Perm docs
  order : ∀ t, docs'.filter (isExtensionOf t) = docs.filter (isExtensionOf t)

section Everywhere

variable {give : Text → Option (List Entity)}

theorem intake_everywhere (before before' : List Text) (p : Profile) :
    intake true give before p = intake true give before' p := by
  have hr : receives true before p = receives true before' p := by
    rw [receives, receives, Bool.true_or, Bool.true_or]
  rw [intake, intake, hr]

theorem rebuildAll_everywhere {before : List Text} (before' : List Text) {docs ds : List Entity}
    (h : rebuildAll true give before docs = some ds) :
    rebuildAll true give before' docs = some ds := by
  induction docs using forest_induction generalizing before before' ds with
  | nil =>
      rw [rebuildAll_nil] at h ⊢
      exact h
  | cons p cs es rest ihc _ ihr =>
      obtain ⟨cs', more, rest', hcs, hmore, hrest, rfl⟩ := rebuildAll_cons_eq_some_iff.1 h
      rw [intake_everywhere before before'] at hmore
      exact rebuildAll_cons_eq_some_iff.2 ⟨cs', more, rest', ihc _ hcs, hmore, ihr _ hrest, rfl⟩

/-- When every host takes up extensions, the hosts before a tree do not matter. -/
theorem rebuild_everywhere (before : List Text) (d : Entity) :
    rebuild true give before d = rebuild true give [] d := by
  apply Option.ext
  intro d'
  rw [← rebuildAll_singleton, ← rebuildAll_singleton]
  constructor
  · exact rebuildAll_everywhere []
  · exact rebuildAll_everywhere before

/-- Rebuilding at places is then rebuilding of the entries that stand there. -/
theorem mapM_entryWith_everywhere (q : Entity → Bool) (docs : List Entity) :
    (placesOf q docs).mapM (entryWith true give docs) =
      (docs.filter q).mapM (rebuild true give []) := by
  have hentry : entryWith true give docs = fun i => rebuild true give [] (entry docs i) := by
    funext i
    exact rebuild_everywhere _ _
  have hplaces : (placesOf q docs).map (entry docs) = docs.filter q := by
    rw [← List.map_id (docs.filter q), ← map_placesOf]
    rfl
  rw [hentry, ← hplaces, List.mapM_map]
  rfl

end Everywhere

section Folding

variable {docs docs' folded : List Entity}

theorem Reordered.supply_eq (h : Reordered docs docs') (depth : Nat) :
    supply true docs' depth = supply true docs depth := by
  induction depth with
  | zero =>
      funext t
      rw [supply, supply, h.perm.any_eq]
  | succ depth ih =>
      funext t
      rw [supply_succ, supply_succ, mapM_entryWith_everywhere, mapM_entryWith_everywhere, ih,
        h.order t]

theorem Reordered.isHosted_eq (h : Reordered docs docs') (d : Entity) :
    isHosted docs' d = isHosted docs d := by
  have hflat : (flatten docs').Perm (flatten docs) := by
    rw [flatten_eq_flatMap, flatten_eq_flatMap]
    exact h.perm.flatMap_right walk
  have htitles : (hostTitles docs').Perm (hostTitles docs) := (hflat.filter _).map _
  rw [isHosted, isHosted, Bool.eq_iff_iff, Bool.and_eq_true, Bool.and_eq_true,
    List.contains_iff_mem, List.contains_iff_mem, htitles.mem_iff]

/-- Taking entries out on both sides keeps the relation. -/
theorem Reordered.filter (h : Reordered docs docs') (q : Entity → Bool) :
    Reordered (docs.filter q) (docs'.filter q) := by
  constructor
  · exact h.perm.filter q
  · intro t
    rw [List.filter_comm, h.order t, List.filter_comm]

theorem filter_isExtensionOf_map {l : List Entity} {g : Entity → Entity}
    (hg : ∀ d ∈ l, (g d).profile = d.profile) (t : Text) :
    (l.map g).filter (isExtensionOf t) = (l.filter (isExtensionOf t)).map g := by
  rw [List.filter_map]
  refine congrArg (List.map g) (List.filter_congr ?_)
  intro d hd
  exact isExtensionOf_congr (hg d hd) t

/-- Changing entries one by one, without their fields, keeps the relation. -/
theorem Reordered.mapM (h : Reordered docs docs') {f : Entity → Option Entity}
    (hf : ∀ d d', f d = some d' → d'.profile = d.profile) (hdocs : docs.mapM f = some folded) :
    ∃ folded', docs'.mapM f = some folded' ∧ Reordered folded folded' := by
  have hsome : ∀ d ∈ docs, ∃ d', f d = some d' := by
    intro d hd
    obtain ⟨d', -, hd'⟩ := exists_of_mapM hdocs hd
    exact ⟨d', hd'⟩
  have hprofile : ∀ d ∈ docs, ((f d).getD default).profile = d.profile := by
    intro d hd
    obtain ⟨d', hd'⟩ := hsome d hd
    rw [hd', Option.getD_some]
    exact hf d d' hd'
  refine ⟨_, mapM_eq_some_of_forall fun d hd => hsome d (h.perm.mem_iff.1 hd), ?_, ?_⟩
  · rw [eq_map_of_mapM hdocs]
    exact h.perm.map _
  · intro t
    rw [eq_map_of_mapM hdocs, filter_isExtensionOf_map hprofile, ← h.order t]
    exact filter_isExtensionOf_map (fun d hd => hprofile d (h.perm.mem_iff.1 hd)) t

/-- Folding keeps the relation between two top levels: both take the same entries out and rebuild
the others with the same supply. -/
theorem Reordered.internal (h : Reordered docs docs') (hf : internal? true docs = some folded) :
    ∃ folded', internal? true docs' = some folded' ∧ Reordered folded folded' := by
  have hhosted : (fun d => !isHosted docs' d) = fun d => !isHosted docs d := by
    funext d
    rw [h.isHosted_eq d]
  rw [internal?_eq_mapM, rebuiltAt, mapM_entryWith_everywhere] at hf
  rw [internal?_eq_mapM, rebuiltAt, mapM_entryWith_everywhere, hhosted, h.perm.length_eq,
    h.supply_eq]
  apply (h.filter _).mapM _ hf
  intro d d' hd'
  exact profile_eq_of_bare_eq (rebuild_bare hd')

end Folding

section Grouping

variable {docs docs' : List Entity} {title : Text} {reversed : Bool}

theorem Reordered.membersOf_eq (h : Reordered docs docs') (t : Text) :
    membersOf reversed docs' t = membersOf reversed docs t := by
  rw [membersOf, membersOf, h.order t]

theorem Reordered.extensionTitles_perm (h : Reordered docs docs') :
    (extensionTitles docs').Perm (extensionTitles docs) := by
  apply (List.perm_ext_iff_of_nodup (Text.nodup_distinct _) (Text.nodup_distinct _)).2
  intro t
  have hmem : t ∈ extensionTitles docs' ↔ t ∈ extensionTitles docs := by
    simp only [mem_extensionTitles, h.perm.mem_iff]
  exact hmem

/-- Grouping without containers at the top level gives the same entries in some order. -/
theorem Reordered.external_perm (h : Reordered docs docs')
    (hplain : ∀ d ∈ docs, d.profile.synthetic = false) :
    (external title reversed docs').Perm (external title reversed docs) := by
  have hplain' : ∀ d ∈ docs', d.profile.synthetic = false := by
    intro d hd
    exact hplain d (h.perm.mem_iff.1 hd)
  have hmembers : membersOf reversed docs' = membersOf reversed docs :=
    funext fun t => h.membersOf_eq t
  rw [external_of_no_container hplain, external_of_no_container hplain', hmembers]
  exact (h.perm.filter _).append (h.extensionTitles_perm.map _)

end Grouping

section Merge

/-- When every host takes up the extensions of its title, the result of merging depends on the order
of the top level only through the order of the extensions of each title, up to the order of the
result. -/
theorem merge?_perm (options : Options) (title : Text) {docs docs' result : List Entity}
    (hall : options.duplicateInternalMatches = true)
    (hplain : ∀ d ∈ docs, d.profile.synthetic = false) (hdocs : Reordered docs docs')
    (h : merge? options title docs = some result) :
    ∃ result', merge? options title docs' = some result' ∧ result'.Perm result := by
  rw [merge?, hall, Option.map_eq_some_iff] at h
  obtain ⟨folded, hfolded, rfl⟩ := h
  obtain ⟨folded', hfolded', hreordered⟩ := hdocs.internal hfolded
  refine ⟨external title options.reverseExternalOrder folded', ?_,
    hreordered.external_perm (synthetic_of_mem_internal hplain hfolded)⟩
  rw [merge?, hall, hfolded', Option.map_some]

end Merge

section Sample

/-- Two extensions of one title around a type, after an extension of that type. -/
def extensionFirst : List Entity :=
  [plain .extensionOf ['A'] [plain .structType ['B'] [] []] [],
   plain .extensionOf ['C'] [] [],
   plain .classType ['A'] [] [],
   plain .extensionOf ['C'] [plain .enumType ['D'] [] []] []]

/-- The same entries with the extension of the type at the end. -/
def extensionLast : List Entity :=
  extensionFirst.tail ++ extensionFirst.take 1

theorem extensionFirst_reordered : Reordered extensionFirst extensionLast := by
  constructor
  · exact List.perm_append_comm
  · intro t
    rw [extensionLast, List.filter_append]
    by_cases ht : ['A'] = t
    · subst ht
      rfl
    · have hnone : (extensionFirst.take 1).filter (isExtensionOf t) = [] := by
        simp [extensionFirst, isExtensionOf, plain, Entity.title, ht]
      rw [hnone, List.append_nil]
      simp [extensionFirst, isExtensionOf, plain, Entity.title, ht]

theorem extensionFirst_perm :
    ∃ result, merge? ⟨true, true⟩ ['P'] extensionFirst = some result ∧
      ∃ result', merge? ⟨true, true⟩ ['P'] extensionLast = some result' ∧
        result'.Perm result := by
  have hsome : (merge? ⟨true, true⟩ ['P'] extensionFirst).isSome = true := by
    decide +kernel
  have hplain : ∀ d ∈ extensionFirst, d.profile.synthetic = false := by
    decide
  obtain ⟨result, hresult⟩ := Option.isSome_iff_exists.1 hsome
  exact ⟨result, hresult,
    merge?_perm ⟨true, true⟩ ['P'] rfl hplain extensionFirst_reordered hresult⟩

end Sample

end Merge

end ApiAtlas
