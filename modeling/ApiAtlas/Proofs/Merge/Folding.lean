import ApiAtlas.Proofs.Merge.Hosting

/-!
# Folding against its specification

**Input.** The top level of a forest for which folding comes to an end.

**Definitions.** `Folded` says what becomes of the entry at a place, when `rebuilt` names the tree
that each entry becomes: apart from extensions nothing changes at any depth, and an entity gains
either nothing or the rebuilt extensions of its title, all of them and in the order of the top
level.

**Results.** `internal?_eq_some_folded`: the result of folding is the list of the entries that
remain, each of them folded, and so is every extension that is attached on the way.
-/

namespace ApiAtlas

namespace Merge

open Entity

/-- What becomes of the entry at a place, when `rebuilt` names the tree that each entry becomes. -/
structure Folded (everywhere : Bool) (docs : List Entity) (rebuilt : Fin docs.length → Entity)
    (i : Fin docs.length) : Prop where
  /-- Apart from extensions, the tree is the same at every depth. -/
  bare_eq : (rebuilt i).bare = (entry docs i).bare
  /-- The tree documents the same thing. -/
  same : (entry docs i).sameAs (rebuilt i) = true
  /-- Each entity keeps its extensions, and gains those of its title when it takes them up. -/
  extensions_eq : ∀ pre e post, (entry docs i).walk = pre ++ e :: post →
    ∃ e',
      (rebuilt i).walk[pre.length]? = some e' ∧
      e'.bare = e.bare ∧
      e'.extensions = e.extensions ++
        if TakesUp everywhere (flatten (docs.take i) ++ pre) e then
          (placesOf (isExtensionOf e.title) docs).map rebuilt
        else []

variable {everywhere : Bool} {docs : List Entity}

/-- The extensions that an entity of a rebuilt entry takes up are rebuilt as well, and are reached
from the entry. -/
theorem exists_rebuiltAt_of_hostedBy {i j : Fin docs.length} {d : Entity}
    (hd : rebuiltAt everywhere docs i = some d) (hji : HostedBy everywhere docs j i) :
    ∃ d' ∈ reach d, rebuiltAt everywhere docs j = some d' := by
  obtain ⟨hj, pre, e, post, hw, ht, hup⟩ := hji
  obtain ⟨e', more, hat, -, hext, hgive, -⟩ := entryWith_at_place hd hw
  have hplace : j ∈ placesOf (isExtensionOf e.title) docs := by
    rw [mem_placesOf, isExtensionOf_iff]
    exact ⟨hj, ht.symm⟩
  obtain ⟨d', hd', hj'⟩ := exists_of_mapM (supply_fixed (hgive hup)) hplace
  refine ⟨d', ?_, hj'⟩
  have he' : e' ∈ reach d := mem_reach_of_mem_walk (List.mem_of_getElem? hat)
  have hreach : d' ∈ reachAll e'.extensions := by
    rw [hext, reachAll_append, List.mem_append]
    exact Or.inr (mem_reachAll_of_mem hd')
  rw [← reachAll_singleton] at he' ⊢
  exact reachAll_extensions_subset he' hreach

/-- When folding comes to an end, every entry that is placed is rebuilt and is reached from the
result: the induction follows the hosts from the entry up to one that remains. -/
theorem exists_rebuiltAt_of_placed {result : List Entity} {j : Fin docs.length}
    (h : internal? everywhere docs = some result) (hj : Placed everywhere docs j) :
    ∃ d ∈ reachAll result, rebuiltAt everywhere docs j = some d := by
  obtain ⟨i, hi, hchain⟩ := hj
  rw [internal?_eq_mapM_remaining] at h
  induction hchain using Relation.ReflTransGen.head_induction_on with
  | refl =>
      obtain ⟨d, hd, hi'⟩ := exists_of_mapM h hi
      exact ⟨d, mem_reachAll_of_mem hd, hi'⟩
  | head hstep _ ih =>
      obtain ⟨d, hd, hk⟩ := ih
      obtain ⟨d', hd', hj'⟩ := exists_rebuiltAt_of_hostedBy hk hstep
      exact ⟨d', reach_subset_reachAll hd hd', hj'⟩

/-- A rebuilt entry is folded. -/
theorem folded_of_rebuiltAt {i : Fin docs.length} {d : Entity}
    (hd : rebuiltAt everywhere docs i = some d) :
    Folded everywhere docs (fun j => (rebuiltAt everywhere docs j).getD default) i := by
  have hget : (rebuiltAt everywhere docs i).getD default = d := by
    rw [hd, Option.getD_some]
  have hbare : d.bare = (entry docs i).bare := rebuild_bare hd
  refine ⟨?_, ?_, ?_⟩
  · rw [hget]
    exact hbare
  · rw [hget]
    exact sameAs_of_bare_eq hbare
  · intro pre e post hw
    obtain ⟨e', more, hat, hebare, hext, hgive, hnone⟩ := entryWith_at_place hd hw
    refine ⟨e', ?_, hebare, ?_⟩
    · rw [hget]
      exact hat
    · rw [hext]
      by_cases hup : TakesUp everywhere (flatten (docs.take i) ++ pre) e
      · rw [if_pos hup, eq_map_of_mapM (supply_fixed (hgive hup))]
      · rw [if_neg hup, hnone hup]

/-- The result of folding: the entries that remain, in order, each of them folded; and so is every
extension that is attached on the way. -/
theorem internal?_eq_some_folded {result : List Entity}
    (h : internal? everywhere docs = some result) :
    ∃ rebuilt : Fin docs.length → Entity,
      result = (remaining docs).map rebuilt ∧
      ∀ i, Placed everywhere docs i → Folded everywhere docs rebuilt i := by
  refine ⟨fun j => (rebuiltAt everywhere docs j).getD default, ?_, ?_⟩
  · rw [internal?_eq_mapM_remaining] at h
    exact eq_map_of_mapM h
  · intro i hi
    obtain ⟨d, -, hd⟩ := exists_rebuiltAt_of_placed h hi
    exact folded_of_rebuiltAt hd

/-- The nested type of an extension that moves takes up its own extension on the way. -/
theorem nestedHosts_folded :
    ∃ rebuilt : Fin nestedHosts.length → Entity,
      [plain .classType ['A'] []
          [plain .extensionOf ['A']
            [plain .structType ['A', '.', 'B'] [] [plain .extensionOf ['A', '.', 'B'] [] []]] []],
        plain .classType ['A'] [] [],
        plain .extensionOf ['C'] [] []] = (remaining nestedHosts).map rebuilt ∧
      ∀ i, Placed false nestedHosts i → Folded false nestedHosts rebuilt i :=
  internal?_eq_some_folded rfl

end Merge

end ApiAtlas
