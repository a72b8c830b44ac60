import ApiAtlas.Proofs.Store.Retention

/-!
# What a search finds after merging

**Input.** Source files whose entities are put into an empty store, and a configuration.

**Definitions.** `outside` lists the entities that do not stand in an extension of the top level,
and `madeContainers` the containers that merging makes.  `Shows` says that a list has an entity with
the title, the kind, the access level and the source file of another one.

**Results.**
* `map_bare_flatten_merge?`: a traversal of the merged forest meets the entities outside the
  extensions of the top level, in their order, and then the new containers.
* `shows_merged_iff`: so a search without conditions shows all of these and nothing else.
* `extendedType_hides`: what stands in an extension is not found, because a traversal does not enter
  attached extensions.
-/

namespace ApiAtlas

open Entity

namespace Merge

variable {everywhere reversed : Bool} {title : Text} {docs folded : List Entity}

section Traversal

/-- The entities that do not stand in an extension of the top level, depth first. -/
def outside (docs : List Entity) : List Entity :=
  flatten (docs.filter fun d => !d.isSourceExtension)

/-- The containers that merging makes, without what it puts into them: one for each title of
extensions without a host. -/
def madeContainers (title : Text) (docs : List Entity) : List Entity :=
  (extensionTitles (docs.filter fun d => ¬ Matched docs d)).map fun t => container t title []

/-- Bare forms can be taken before or after a traversal. -/
theorem flatten_bareAll (docs : List Entity) :
    flatten (bareAll docs) = (flatten docs).map bare := by
  induction docs using forest_induction with
  | nil =>
      simp
  | cons p cs es rest ihc _ ihr =>
      simp only [bareAll_cons, bare_node, flatten_cons, walk_node, List.cons_append, List.map_cons,
        List.map_append, ihc, ihr]

theorem map_bare_outside (docs : List Entity) :
    (outside docs).map bare = flatten ((docs.map bare).filter fun d => !d.isSourceExtension) := by
  have hfields : (fun d : Entity => !d.isSourceExtension) ∘ bare =
      fun d => !d.isSourceExtension := by
    funext d
    simp only [Function.comp_apply, Entity.isSourceExtension, profile_bare]
  rw [outside, ← flatten_bareAll, bareAll_eq_map, List.filter_map, hfields]

/-- Folding keeps the bare forms of the entries that remain. -/
theorem map_bare_internal (h : internal? everywhere docs = some folded) :
    folded.map bare = (docs.filter fun d => !isHosted docs d).map bare := by
  rw [internal?_eq_mapM] at h
  rw [← map_placesOf]
  apply map_of_mapM h
  intro i d hd
  exact rebuild_bare hd

/-- Folding keeps what stands outside the extensions of the top level: only extensions leave. -/
theorem map_bare_outside_internal (h : internal? everywhere docs = some folded) :
    (outside folded).map bare = (outside docs).map bare := by
  have hkeep : (docs.filter fun d => !isHosted docs d).filter (fun d => !d.isSourceExtension) =
      docs.filter fun d => !d.isSourceExtension := by
    rw [List.filter_filter]
    apply List.filter_congr
    intro d _
    rw [isHosted]
    cases d.isSourceExtension with
    | true => rfl
    | false => rfl
  rw [map_bare_outside, map_bare_internal h, ← map_bare_outside, outside, hkeep, outside]

/-- Nothing is nested in a container. -/
theorem map_bare_flatten_containers (members : Text → List Entity) (ts : List Text) :
    (flatten (ts.map fun t => container t title (members t))).map bare =
      ts.map fun t => container t title [] := by
  induction ts with
  | nil =>
      simp
  | cons t ts ih =>
      have hwalk : walk (container t title (members t)) = [container t title (members t)] := by
        rw [container, walk_node, flatten_nil]
      have hbare : (container t title (members t)).bare = container t title [] := by
        rw [container, bare_node, bareAll_nil]
        rfl
      rw [List.map_cons, flatten_cons, hwalk, List.map_append, ih, List.map_cons, List.map_cons,
        hbare]
      rfl

/-- The titles of extensions depend on the fields of the entries only. -/
theorem extensionTitles_congr {as bs : List Entity}
    (h : as.map Entity.profile = bs.map Entity.profile) :
    extensionTitles as = extensionTitles bs := by
  have hfields : ∀ ds : List Entity, extensionTitles ds =
      Text.distinct (((ds.map Entity.profile).filter Profile.isSourceExtension).map
        Profile.title) := by
    intro ds
    rw [List.filter_map, List.map_map]
    rfl
  rw [hfields as, hfields bs, h]

/-- A traversal of the merged forest: the entities outside the extensions of the top level, and the
containers that merging makes. -/
theorem map_bare_flatten_merge? {options : Options} {result : List Entity}
    (hplain : ∀ d ∈ docs, d.profile.synthetic = false)
    (h : merge? options title docs = some result) :
    (flatten result).map bare = (outside docs).map bare ++ madeContainers title docs := by
  rw [merge?, Option.map_eq_some_iff] at h
  obtain ⟨folded, hfolded, rfl⟩ := h
  have htitles : extensionTitles folded =
      extensionTitles (docs.filter fun d => ¬ Matched docs d) := by
    rw [extensionTitles_congr (map_profile_internal hfolded), not_isHosted_eq]
  rw [external_of_no_container (synthetic_of_mem_internal hplain hfolded), flatten_append,
    List.map_append, map_bare_flatten_containers, htitles, ← outside,
    map_bare_outside_internal hfolded, madeContainers]

end Traversal

end Merge

namespace Store

open Merge

section Defs

/-- Whether a list has an entity with the title, kind, access level and source file of another
one. -/
def Shows (found : List Entity) (e : Entity) : Prop :=
  ∃ x ∈ found, x.title = e.title ∧ x.kind = e.kind ∧ x.access = e.access ∧
    x.profile.sourceFile = e.profile.sourceFile

instance (found : List Entity) (e : Entity) : Decidable (Shows found e) :=
  inferInstanceAs (Decidable (∃ x ∈ found, _))

end Defs

section Laws

/-- A search without conditions is a traversal of the forest. -/
theorem search_all (s : Store) : s.search none none .priv = flatten s.docs := by
  rw [search, List.filter_eq_self]
  intro e _
  simp [isMatch, Access.priv_le]

theorem shows_of_mem {found : List Entity} {e : Entity} (he : e ∈ found) : Shows found e :=
  ⟨e, he, rfl, rfl, rfl, rfl⟩

theorem shows_append {as bs : List Entity} {e : Entity} :
    Shows (as ++ bs) e ↔ Shows as e ∨ Shows bs e := by
  simp only [Shows, List.mem_append, or_and_right, exists_or]

/-- What a list shows depends on the bare forms of its entities only. -/
theorem shows_map_bare {found : List Entity} {e : Entity} :
    Shows (found.map bare) e ↔ Shows found e := by
  constructor
  · rintro ⟨x, hx, hshown⟩
    obtain ⟨y, hy, rfl⟩ := List.mem_map.1 hx
    simp only [Entity.title, Entity.kind, Entity.access, profile_bare] at hshown
    exact ⟨y, hy, hshown⟩
  · rintro ⟨y, hy, hshown⟩
    refine ⟨y.bare, List.mem_map_of_mem hy, ?_⟩
    simp only [Entity.title, Entity.kind, Entity.access, profile_bare]
    exact hshown

/-- What a search without conditions shows in a merged store, when there were no containers at the
top level before. -/
theorem shows_search_iff {s merged : Store} (hplain : ∀ d ∈ s.docs, d.profile.synthetic = false)
    (h : s.merge? = some merged) (e : Entity) :
    Shows (merged.search none none .priv) e ↔
      Shows (outside s.docs) e ∨ Shows (madeContainers s.config.title s.docs) e := by
  rw [merge?, Option.map_eq_some_iff] at h
  obtain ⟨docs, hdocs, rfl⟩ := h
  rw [search_all, ← shows_map_bare, map_bare_flatten_merge? hplain hdocs, shows_append,
    shows_map_bare]

/-- After merging, a search without conditions shows every entity of the source files that does not
stand in an extension of the top level.  Apart from that it shows the containers that merging made,
and nothing else; so it shows an entity that stands in such an extension only when one of these has
the same title, kind, access level and source file. -/
theorem shows_merged_iff (config : Config) (sources : List Source) {merged : Store}
    (h : (ofSources config sources).merge? = some merged) :
    (∀ e ∈ outside (ofSources config sources).docs, Shows (merged.search none none .priv) e) ∧
      ∀ e, Shows (merged.search none none .priv) e ↔
        Shows (outside (ofSources config sources).docs) e ∨
          Shows (madeContainers config.title (ofSources config sources).docs) e := by
  have hplain : ∀ d ∈ (ofSources config sources).docs, d.profile.synthetic = false := by
    intro d hd
    exact (ofSources_fresh config sources d (mem_reachAll_of_mem hd)).2
  have hiff := shows_search_iff hplain h
  constructor
  · intro e he
    exact (hiff e).2 (Or.inl (shows_of_mem he))
  · exact hiff

end Laws

section Sample

/-- A type with a member, an extension of it with a type inside, and an extension of a type outside
the project with a member. -/
def extendedType : Source :=
  ⟨"M.swift".toList,
    [Record.ofPublic "class" "B" [Record.ofPublic "var.instance" "size" []],
      Record.ofPublic "extension" "B" [Record.ofPublic "struct" "C" []],
      Record.ofPublic "extension" "D" [Record.ofPublic "var.instance" "twice" []]]⟩

theorem extendedType_shows :
    ∃ merged, (ofSources {} [extendedType]).merge? = some merged ∧
      (∀ e ∈ outside (ofSources {} [extendedType]).docs,
        Shows (merged.search none none .priv) e) ∧
      ∀ e, Shows (merged.search none none .priv) e ↔
        Shows (outside (ofSources {} [extendedType]).docs) e ∨
          Shows (madeContainers (Config.title {}) (ofSources {} [extendedType]).docs) e := by
  have hsome : (ofSources {} [extendedType]).merge?.isSome = true := by
    decide +kernel
  obtain ⟨merged, hmerged⟩ := Option.isSome_iff_exists.1 hsome
  exact ⟨merged, hmerged, shows_merged_iff {} [extendedType] hmerged⟩

/-- The type inside the extension is not found any more once the extension is attached. -/
theorem extendedType_hides :
    ∃ merged, (ofSources {} [extendedType]).merge? = some merged ∧
      ∃ d ∈ (ofSources {} [extendedType]).docs, d.isSourceExtension = true ∧
        ∃ e ∈ flatten d.children, ¬ Shows (merged.search none none .priv) e := by
  have hhidden : (ofSources {} [extendedType]).merge?.map (fun s =>
      decide (∃ d ∈ (ofSources {} [extendedType]).docs, d.isSourceExtension = true ∧
        ∃ e ∈ flatten d.children, ¬ Shows (s.search none none .priv) e)) = some true := by
    decide +kernel
  obtain ⟨merged, hmerged, hdecide⟩ := Option.map_eq_some_iff.1 hhidden
  exact ⟨merged, hmerged, of_decide_eq_true hdecide⟩

end Sample

end Store

end ApiAtlas
