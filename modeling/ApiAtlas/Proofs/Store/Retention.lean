import ApiAtlas.Proofs.Merge.Origin
import ApiAtlas.Proofs.Record.Conversion
import ApiAtlas.Store

/-!
# What merging keeps of the records

**Input.** Source files whose entities are put into an empty store, and a configuration.

**Definitions.** `ofSources` is the store before merging.  `Kept` says that a forest still reaches
an entity, whatever extensions it has gained.

**Results.**
* `kept_iff`: in a forest of fresh entities, merging keeps exactly what stands in an entry that is
  placed.
* `placed_of_typesInDecls`: every entry is placed when no type stands inside an entity outside the
  closed set of declarations.
* `kept_iff_placed`: both of it for the entities of source files.
* `selfHosted_lost`: an extension that is hosted by a type inside itself only is lost.
-/

namespace ApiAtlas

namespace Store

open Entity Merge

section Defs

/-- The store of the entities of source files. -/
def ofSources (config : Config) (sources : List Source) : Store :=
  ((empty config).addSources sources).store

/-- Whether a forest reaches an entity, apart from the extensions that the entity has gained. -/
def Kept (docs : List Entity) (d : Entity) : Prop :=
  ∃ x ∈ reachAll docs, x.bare = d.bare

theorem ofSources_fresh (config : Config) (sources : List Source) :
    ∀ e ∈ reachAll (ofSources config sources).docs, Record.Fresh e :=
  Source.entitiesOf_fresh

end Defs

section Fresh

variable {everywhere : Bool} {docs folded : List Entity}

/-- A forest of fresh entities holds no old extensions, so what folding reaches has grown from an
entity of an entry that is placed. -/
theorem exists_grown_of_fresh (hfresh : ∀ e ∈ reachAll docs, Record.Fresh e)
    (h : internal? everywhere docs = some folded) {x : Entity} (hx : x ∈ reachAll folded) :
    ∃ i, Placed everywhere docs i ∧ ∃ e ∈ (entry docs i).walk, Grown e x ∧ Record.Fresh e := by
  obtain ⟨i, hi, e, he, horigin⟩ := exists_placed_origin h hx
  have hf : Record.Fresh e :=
    hfresh e (mem_reachAll_of_mem_flatten (mem_flatten.2 ⟨i, he⟩))
  rcases horigin with hgrown | hold
  · exact ⟨i, hi, e, he, hgrown, hf⟩
  · rw [hf.1] at hold
    simp at hold

/-- In a forest of fresh entities, folding reaches exactly what stands in an entry that is placed. -/
theorem kept_folded_iff (hfresh : ∀ e ∈ reachAll docs, Record.Fresh e)
    (h : internal? everywhere docs = some folded) {d : Entity} :
    Kept folded d ↔
      ∃ i, Placed everywhere docs i ∧ ∃ e ∈ (entry docs i).walk, e.bare = d.bare := by
  constructor
  · rintro ⟨x, hx, hbare⟩
    obtain ⟨i, hi, e, he, hgrown, -⟩ := exists_grown_of_fresh hfresh h hx
    exact ⟨i, hi, e, he, hgrown.1.symm.trans hbare⟩
  · rintro ⟨i, hi, e, he, hbare⟩
    obtain ⟨d', hd', hrebuilt⟩ := exists_rebuiltAt_of_placed h hi
    obtain ⟨pre, post, hw⟩ := List.append_of_mem he
    obtain ⟨e', more, hat, hebare, -⟩ := entryWith_at_place hrebuilt hw
    have he' : e' ∈ reach d' := mem_reach_of_mem_walk (List.mem_of_getElem? hat)
    exact ⟨e', reach_subset_reachAll hd' he', hebare.trans hbare⟩

/-- In a forest of fresh entities, merging keeps exactly what stands in an entry that is placed:
grouping adds nothing but containers to what folding reaches. -/
theorem kept_iff (hfresh : ∀ e ∈ reachAll docs, Record.Fresh e)
    (h : internal? everywhere docs = some folded) {title : Text} {reversed : Bool} {d : Entity}
    (hd : d.profile.synthetic = false) :
    Kept (external title reversed folded) d ↔
      ∃ i, Placed everywhere docs i ∧ ∃ e ∈ (entry docs i).walk, e.bare = d.bare := by
  have hplain : ∀ x ∈ folded, x.profile.synthetic = false := by
    intro x hx
    obtain ⟨-, -, e, -, hgrown, hf⟩ := exists_grown_of_fresh hfresh h (mem_reachAll_of_mem hx)
    rw [profile_eq_of_bare_eq hgrown.1]
    exact hf.2
  rw [← kept_folded_iff hfresh h]
  constructor
  · rintro ⟨x, hx, hbare⟩
    rcases (mem_reachAll_external hplain).1 hx with hx | ⟨t, -, rfl⟩
    · exact ⟨x, hx, hbare⟩
    · have hs := profile_eq_of_bare_eq hbare
      rw [← hs, container, profile_node] at hd
      simp at hd
  · rintro ⟨x, hx, hbare⟩
    exact ⟨x, (mem_reachAll_external hplain).2 (Or.inl hx), hbare⟩

end Fresh

section Sources

variable {everywhere : Bool} {root : Option Path} {sources : List Source}

/-- When no type stands inside an entity outside the closed set of declarations, a type in an
extension has a longer title than the extension, so following the hosts leads out of the
extensions. -/
theorem placed_of_typesInDecls (htypes : Record.TypesInDecls (Source.entitiesOf root sources))
    (j : Fin (Source.entitiesOf root sources).length) :
    Placed everywhere (Source.entitiesOf root sources) j := by
  refine placed_of_rank (fun i =>
    if (entry (Source.entitiesOf root sources) i).isSourceExtension = true then
      (entry (Source.entitiesOf root sources) i).title.length + 1
    else 0) ?_ j
  intro j i hji
  obtain ⟨e, he, hext, ht⟩ := hji.exists_host
  simp only [hji.1, if_true]
  by_cases hi : (entry (Source.entitiesOf root sources) i).isSourceExtension = true
  · rw [walk_eq_cons, List.mem_cons] at he
    rcases he with rfl | he
    · -- An extension is not its own host; only a type inside it can be.
      have hno := extendable_of_isSourceExtension hi
      rw [hext] at hno
      simp at hno
    · have hlt := Source.length_lt_of_mem_children htypes (entry_mem _ i) he hext
      rw [if_pos hi, ← ht]
      exact Nat.succ_lt_succ hlt
  · rw [if_neg hi]
    omega

/-- What merging keeps of the entries of source files: exactly what stands in an entry that
remains at the top level or is hosted by one, in one step or several.  When no type stands inside
an entity outside the closed set of declarations, that is every entry. -/
theorem kept_iff_placed (config : Config) (sources : List Source) {merged : Store}
    (h : (ofSources config sources).merge? = some merged) :
    (∀ d ∈ (ofSources config sources).docs,
      Kept merged.docs d ↔
        ∃ i, Placed config.merge.duplicateInternalMatches (ofSources config sources).docs i ∧
          ∃ e ∈ (entry (ofSources config sources).docs i).walk, e.bare = d.bare) ∧
      (Record.TypesInDecls (ofSources config sources).docs →
        ∀ d ∈ (ofSources config sources).docs, Kept merged.docs d) := by
  obtain ⟨folded, hfolded, rfl⟩ := merge?_eq_some_iff.1 h
  have hfresh := ofSources_fresh config sources
  constructor
  · intro d hd
    exact kept_iff hfresh hfolded (hfresh d (mem_reachAll_of_mem hd)).2
  · intro htypes d hd
    obtain ⟨i, rfl⟩ := exists_entry hd
    have hplain := (hfresh _ (mem_reachAll_of_mem hd)).2
    exact (kept_iff hfresh hfolded hplain).2
      ⟨i, placed_of_typesInDecls htypes i, _, mem_walk_self _, rfl⟩

end Sources

section Sample

/-- An extension of `x.A` with a variable `x` inside, which has a type `A` inside: titles start
again below a variable, so this type has the title of the extension. -/
def selfHosted : Source :=
  ⟨"L.swift".toList,
    [Record.ofPublic "extension" "x.A"
      [Record.ofPublic "var.instance" "x" [Record.ofPublic "class" "A" []]]]⟩

/-- A type, and an extension of it with a type inside. -/
def hostedExtension : Source :=
  ⟨"M.swift".toList,
    [Record.ofPublic "class" "B" [],
      Record.ofPublic "extension" "B" [Record.ofPublic "struct" "C" []]]⟩

/-- An extension that is hosted by a type outside it is kept, with the type inside it. -/
theorem hostedExtension_kept :
    ∃ merged, (ofSources {} [hostedExtension]).merge? = some merged ∧
      Record.TypesInDecls (ofSources {} [hostedExtension]).docs ∧
      (∀ d ∈ (ofSources {} [hostedExtension]).docs,
        Kept merged.docs d ↔
          ∃ i, Placed true (ofSources {} [hostedExtension]).docs i ∧
            ∃ e ∈ (entry (ofSources {} [hostedExtension]).docs i).walk, e.bare = d.bare) ∧
      ∀ d ∈ (ofSources {} [hostedExtension]).docs, Kept merged.docs d := by
  have hsome : (ofSources {} [hostedExtension]).merge?.isSome = true := by
    decide +kernel
  have htypes : Record.TypesInDecls (ofSources {} [hostedExtension]).docs := by
    decide +kernel
  obtain ⟨merged, hmerged⟩ := Option.isSome_iff_exists.1 hsome
  obtain ⟨hiff, hall⟩ := kept_iff_placed {} [hostedExtension] hmerged
  exact ⟨merged, hmerged, htypes, hiff, hall htypes⟩

/-- An extension that is hosted by a type inside itself only is lost. -/
theorem selfHosted_lost :
    ∃ merged, (ofSources {} [selfHosted]).merge? = some merged ∧
      ∃ d ∈ (ofSources {} [selfHosted]).docs,
        d.isSourceExtension = true ∧ ¬ Kept merged.docs d := by
  have hempty : (ofSources {} [selfHosted]).merge?.map (fun s => s.docs.isEmpty) = some true := by
    decide +kernel
  have hany : (ofSources {} [selfHosted]).docs.any Entity.isSourceExtension = true := by
    decide +kernel
  obtain ⟨merged, hmerged, hdocs⟩ := Option.map_eq_some_iff.1 hempty
  obtain ⟨d, hd, hext⟩ := List.any_eq_true.1 hany
  refine ⟨merged, hmerged, d, hd, hext, ?_⟩
  rintro ⟨x, hx, -⟩
  rw [List.isEmpty_iff.1 hdocs] at hx
  simp at hx

end Sample

end Store

end ApiAtlas
