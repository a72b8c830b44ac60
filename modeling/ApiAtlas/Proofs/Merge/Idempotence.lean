import ApiAtlas.Proofs.Merge.Soundness

/-!
# Merging twice

**Input.** The top level of any forest: with containers, with several containers of one title, with
types that have the title of a container, and with extensions that are attached already.

**Results.**
* `rebuildAll_of_empty_supply`: with nothing to take up, rebuilding changes nothing at any depth.
* `merge?_eq_self_iff`: merging changes nothing exactly when no extension from a record stands at
  the top level; containers and attached extensions do not matter.
* `merge?_idempotent`: the result of merging is such a forest.
-/

namespace ApiAtlas

namespace Merge

open Entity

variable {everywhere : Bool} {docs : List Entity}

section Folding

/-- With nothing to take up, rebuilding changes nothing. -/
theorem rebuildAll_of_empty_supply {give : Text → Option (List Entity)}
    (hgive : ∀ t, give t = some []) (before : List Text) (docs : List Entity) :
    rebuildAll everywhere give before docs = some docs := by
  induction docs using forest_induction generalizing before with
  | nil =>
      rw [rebuildAll_nil]
  | cons p cs es rest ihc _ ihr =>
      have hintake : intake everywhere give before p = some [] := by
        cases hr : receives everywhere before p with
        | true => rw [intake_of_receives hr, hgive]
        | false => rw [intake_of_not_receives hr]
      refine rebuildAll_cons_eq_some_iff.2 ⟨cs, [], rest, ihc _, hintake, ihr _, ?_⟩
      rw [List.append_nil]

theorem supply_of_no_extension (h : ∀ d ∈ docs, d.isSourceExtension = false) (depth : Nat)
    (t : Text) : supply everywhere docs depth t = some [] := by
  have hnone : ∀ d ∈ docs, ¬ isExtensionOf t d = true := by
    intro d hd hext
    rw [isExtensionOf, h d hd] at hext
    simp at hext
  cases depth with
  | zero =>
      have hany : ¬ docs.any (isExtensionOf t) = true := by
        intro hany
        obtain ⟨d, hd, hext⟩ := List.any_eq_true.1 hany
        exact hnone d hd hext
      rw [supply, if_neg hany]
  | succ depth =>
      have hplaces : placesOf (isExtensionOf t) docs = [] := by
        rw [placesOf, List.filter_eq_nil_iff]
        intro i _
        exact hnone _ (entry_mem docs i)
      rw [supply_succ, hplaces]
      rfl

/-- Folding without extensions at the top level changes nothing. -/
theorem internal?_eq_self (h : ∀ d ∈ docs, d.isSourceExtension = false) :
    internal? everywhere docs = some docs := by
  have hall : placesOf (fun d => !isHosted docs d) docs = List.finRange docs.length := by
    rw [placesOf, List.filter_eq_self]
    intro i _
    rw [isHosted, h _ (entry_mem docs i)]
    rfl
  rw [internal?_eq_mapM, hall, rebuiltAt, ← rebuildAll_eq_mapM]
  exact rebuildAll_of_empty_supply (supply_of_no_extension h docs.length) [] docs

end Folding

section Grouping

/-- Grouping without extensions at the top level changes nothing. -/
theorem external_eq_self (title : Text) (reversed : Bool)
    (h : ∀ d ∈ docs, d.isSourceExtension = false) : external title reversed docs = docs := by
  have hnone : docs.filter Entity.isSourceExtension = [] := by
    rw [List.filter_eq_nil_iff]
    intro d hd
    simp [h d hd]
  have htitles : extensionTitles docs = [] := by
    rw [extensionTitles, hnone]
    rfl
  rw [external, htitles]
  exact List.append_nil docs

end Grouping

section Merge

variable {options : Options} {title : Text} {result : List Entity}

theorem not_isSourceExtension_of_merge? (h : merge? options title docs = some result) :
    ∀ d ∈ result, d.isSourceExtension = false := by
  rw [merge?, Option.map_eq_some_iff] at h
  obtain ⟨folded, -, rfl⟩ := h
  intro d hd
  exact isSourceExtension_of_mem_external hd

/-- Merging leaves exactly those forests alone that have no extension at the top level. -/
theorem merge?_eq_self_iff :
    merge? options title docs = some docs ↔ ∀ d ∈ docs, d.isSourceExtension = false := by
  constructor
  · exact not_isSourceExtension_of_merge?
  · intro h
    rw [merge?, internal?_eq_self h, Option.map_some, external_eq_self title _ h]

/-- Merging the result of merging gives the same forest again, with all extensions at every depth
and all containers as they were. -/
theorem merge?_idempotent (h : merge? options title docs = some result) :
    merge? options title result = some result := by
  rw [merge?_eq_self_iff]
  exact not_isSourceExtension_of_merge? h

end Merge

section Sample

/-- Two containers of one title, a container and a type of one title, an extension of that type with
a type and an attached extension inside, and extensions with and without a container. -/
def crowded : List Entity :=
  [container ['F'] ['P'] [plain .extensionOf ['F'] [] []],
   container ['D'] ['P'] [],
   container ['F'] ['P'] [],
   plain .classType ['D'] [] [],
   plain .extensionOf ['D'] [plain .structType ['E'] [] [plain .extensionOf ['E'] [] []]] [],
   plain .extensionOf ['E'] [] [],
   plain .extensionOf ['F'] [plain .enumType ['H'] [] []] [],
   plain .extensionOf ['G'] [] []]

theorem crowded_merged_twice :
    ∃ result, merge? ⟨true, false⟩ ['P'] crowded = some result ∧
      merge? ⟨true, false⟩ ['P'] result = some result := by
  have hsome : (merge? ⟨true, false⟩ ['P'] crowded).isSome = true := by
    decide +kernel
  obtain ⟨result, hresult⟩ := Option.isSome_iff_exists.1 hsome
  exact ⟨result, hresult, merge?_idempotent hresult⟩

end Sample

end Merge

end ApiAtlas
