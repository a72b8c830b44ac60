import ApiAtlas.Proofs.Merge.Folding
import ApiAtlas.Proofs.Merge.Grouping

/-!
# Where the entities of a merged forest come from

**Input.** The top level of a forest for which folding comes to an end.

**Definitions.** `Grown` says that an entity is another one, apart from extensions of its title
that it has gained along the nested entities.

**Results.**
* `exists_origin`: what a rebuilt entry reaches has grown from an entity of the entry, or of an
  extension that the entry hosts in one step or several, or was attached to one of these before.
* `exists_placed_origin`: what the result of folding reaches comes from an entry that is placed.
* `mem_reachAll_external`: without containers at the top level, grouping changes what is reached by
  the new containers only.
-/

namespace ApiAtlas

namespace Merge

open Entity

section Folding

/-- Whether an entity is another one, apart from extensions of its own title that it has gained,
and from extensions that the entities nested in it have gained. -/
def Grown (e e' : Entity) : Prop :=
  e'.bare = e.bare ∧
    ∃ more, e'.extensions = e.extensions ++ more ∧
      ∀ x ∈ more, e.extendable = true ∧ isExtensionOf e.title x = true

variable {everywhere : Bool} {docs : List Entity}

theorem exists_source_of_mem_supply {depth : Nat} {t : Text} {xs : List Entity} {x : Entity}
    (h : supply everywhere docs depth t = some xs) (hx : x ∈ xs) :
    ∃ n j, depth = n + 1 ∧ isExtensionOf t (entry docs j) = true ∧
      entryWith everywhere (supply everywhere docs n) docs j = some x := by
  cases depth with
  | zero =>
      rw [supply] at h
      split at h
      · simp at h
      · rw [← Option.some.inj h] at hx
        simp at hx
  | succ n =>
      rw [supply_succ] at h
      obtain ⟨j, hj, hentry⟩ := exists_of_mem_mapM h hx
      exact ⟨n, j, rfl, mem_placesOf.1 hj, hentry⟩

/-- What an entity of a rebuilt entry has gained: extensions that the entry hosts, rebuilt with a
supply of smaller depth. -/
theorem exists_gained {depth : Nat} {i : Fin docs.length} {d e' : Entity}
    (h : entryWith everywhere (supply everywhere docs depth) docs i = some d)
    (he' : e' ∈ d.walk) :
    ∃ e ∈ (entry docs i).walk, ∃ more,
      e'.bare = e.bare ∧
      e'.extensions = e.extensions ++ more ∧
      ∀ x ∈ more, e.extendable = true ∧ ∃ n j,
        depth = n + 1 ∧
        isExtensionOf e.title (entry docs j) = true ∧
        HostedBy everywhere docs j i ∧
        entryWith everywhere (supply everywhere docs n) docs j = some x := by
  obtain ⟨pre, e, post, more, hw, hbare, hext, hgive, hnone⟩ := entryWith_source h he'
  have he : e ∈ (entry docs i).walk := by
    rw [hw]
    exact List.mem_append_right pre (List.mem_cons_self ..)
  refine ⟨e, he, more, hbare, hext, ?_⟩
  intro x hx
  have hup : TakesUp everywhere (flatten (docs.take i) ++ pre) e := by
    by_contra hno
    rw [hnone hno] at hx
    simp at hx
  obtain ⟨n, j, hdepth, hj, hentry⟩ := exists_source_of_mem_supply (hgive hup) hx
  refine ⟨hup.1, n, j, hdepth, hj, ?_, hentry⟩
  rw [isExtensionOf_iff] at hj
  exact ⟨hj.1, pre, e, post, hw, hj.2.symm, hup⟩

/-- What a rebuilt entry reaches comes from the entry, or from an extension that it hosts in one
step or several. -/
theorem exists_origin (depth : Nat) {i : Fin docs.length} {d x : Entity}
    (h : entryWith everywhere (supply everywhere docs depth) docs i = some d)
    (hx : x ∈ reach d) :
    ∃ j, Relation.ReflTransGen (HostedBy everywhere docs) j i ∧
      ∃ e ∈ (entry docs j).walk, Grown e x ∨ x ∈ reachAll e.extensions := by
  induction depth using Nat.strong_induction_on generalizing i d with
  | _ depth ih =>
      rw [← reachAll_singleton, mem_reachAll_iff, flatten_singleton] at hx
      rcases hx with hwalk | ⟨y, hy, hbelow⟩
      · obtain ⟨e, he, more, hbare, hext, hmore⟩ := exists_gained h hwalk
        refine ⟨i, Relation.ReflTransGen.refl, e, he, Or.inl ⟨hbare, more, hext, ?_⟩⟩
        intro z hz
        obtain ⟨hhost, n, j, -, hj, -, hentry⟩ := hmore z hz
        refine ⟨hhost, ?_⟩
        rw [isExtensionOf_congr (profile_eq_of_bare_eq (rebuild_bare hentry))]
        exact hj
      · obtain ⟨e, he, more, hbare, hext, hmore⟩ := exists_gained h hy
        rw [hext, reachAll_append, List.mem_append] at hbelow
        rcases hbelow with hold | hnew
        · exact ⟨i, Relation.ReflTransGen.refl, e, he, Or.inr hold⟩
        · -- Below a gained extension the supply is of smaller depth.
          obtain ⟨z, hz, hxz⟩ := mem_reachAll.1 hnew
          obtain ⟨-, n, j, hdepth, -, hji, hentry⟩ := hmore z hz
          obtain ⟨k, hkj, horigin⟩ := ih n (by omega) hentry hxz
          exact ⟨k, hkj.tail hji, horigin⟩

/-- What the result of folding reaches comes from an entry that is placed. -/
theorem exists_placed_origin {result : List Entity} {x : Entity}
    (h : internal? everywhere docs = some result) (hx : x ∈ reachAll result) :
    ∃ j, Placed everywhere docs j ∧
      ∃ e ∈ (entry docs j).walk, Grown e x ∨ x ∈ reachAll e.extensions := by
  obtain ⟨d, hd, hxd⟩ := mem_reachAll.1 hx
  rw [internal?_eq_mapM_remaining] at h
  obtain ⟨i, hi, hentry⟩ := exists_of_mem_mapM h hd
  obtain ⟨j, hji, horigin⟩ := exists_origin docs.length hentry hxd
  exact ⟨j, ⟨i, hi, hji⟩, horigin⟩

end Folding

section Grouping

variable {title : Text} {reversed : Bool} {docs : List Entity}

/-- Without containers at the top level, grouping makes a new one for every title. -/
theorem external_of_no_container (h : ∀ d ∈ docs, d.profile.synthetic = false) :
    external title reversed docs =
      (docs.filter fun d => !d.isSourceExtension) ++
        (extensionTitles docs).map fun t => container t title (membersOf reversed docs t) := by
  have hany : ∀ t, docs.any (isContainerOf t) = false := by
    intro t
    rw [List.any_eq_false]
    intro d hd
    simp [isContainerOf, h d hd]
  have hnew : newTitles docs = extensionTitles docs := by
    rw [newTitles]
    exact List.filter_eq_self.2 fun t _ => by simp [hany t]
  have hfill : fill (membersOf reversed docs) [] (docs.filter fun d => !d.isSourceExtension) =
      docs.filter fun d => !d.isSourceExtension := by
    apply fill_eq_self
    intro d hd hs
    rw [h d (List.mem_filter.1 hd).1] at hs
    simp at hs
  rw [external_eq, hnew, hfill]

/-- Without containers at the top level, grouping changes what is reached by the new containers
only. -/
theorem mem_reachAll_external {x : Entity} (h : ∀ d ∈ docs, d.profile.synthetic = false) :
    x ∈ reachAll (external title reversed docs) ↔
      x ∈ reachAll docs ∨
        ∃ t ∈ extensionTitles docs, x = container t title (membersOf reversed docs t) := by
  rw [external_of_no_container h, reachAll_append, List.mem_append]
  constructor
  · rintro (hx | hx)
    · obtain ⟨d, hd, hxd⟩ := mem_reachAll.1 hx
      exact Or.inl (mem_reachAll.2 ⟨d, (List.mem_filter.1 hd).1, hxd⟩)
    · obtain ⟨c, hc, hxc⟩ := mem_reachAll.1 hx
      obtain ⟨t, ht, rfl⟩ := List.mem_map.1 hc
      rw [container, reach_node, reachAll_nil, List.nil_append, List.mem_cons] at hxc
      rcases hxc with rfl | hxc
      · exact Or.inr ⟨t, ht, rfl⟩
      · obtain ⟨d, hd, hxd⟩ := mem_reachAll.1 hxc
        exact Or.inl (mem_reachAll.2 ⟨d, (mem_membersOf.1 hd).1, hxd⟩)
  · rintro (hx | ⟨t, ht, rfl⟩)
    · obtain ⟨d, hd, hxd⟩ := mem_reachAll.1 hx
      cases hext : d.isSourceExtension with
      | false =>
          refine Or.inl (mem_reachAll.2 ⟨d, List.mem_filter.2 ⟨hd, ?_⟩, hxd⟩)
          rw [hext]
          rfl
      | true =>
          have ht : d.title ∈ extensionTitles docs :=
            mem_extensionTitles.2 ⟨d, hd, hext, rfl⟩
          have hmember : d ∈ membersOf reversed docs d.title :=
            mem_membersOf.2 ⟨hd, isExtensionOf_iff.2 ⟨hext, rfl⟩⟩
          refine Or.inr (mem_reachAll.2 ⟨_, List.mem_map_of_mem ht, ?_⟩)
          rw [container, reach_node, reachAll_nil, List.nil_append, List.mem_cons]
          exact Or.inr (mem_reachAll.2 ⟨d, hmember, hxd⟩)
    · exact Or.inr (mem_reachAll.2 ⟨_, List.mem_map_of_mem ht, mem_reach_self _⟩)

end Grouping

end Merge

end ApiAtlas
