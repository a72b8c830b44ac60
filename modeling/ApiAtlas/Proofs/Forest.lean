import ApiAtlas.Entity
import Mathlib.Algebra.BigOperators.Group.Multiset.Basic

/-!
# Forests of entities

**Input.** A list of entity trees.

**Definitions.** `bare` takes away every attached extension along the nested entities, so that two
entities with the same `bare` form agree in all fields, at every depth, apart from their
extensions.  `reach` goes further than `walk`: it also follows the attached extensions.  `labels`
counts what is reached, each entity by its own fields.

**Results.**
* `forest_induction`: one induction over lists of trees, with the nested entities, the attached
  extensions and the rest of the list as the three smaller lists; `nested_induction` follows one
  tree along what is nested in it.
* `sameAs_of_bare_eq`: entities with one bare form document the same thing.
* `mem_reachAll_iff`: what is reached stands in the traversal, or below an extension that is
  attached there.
* `labels_append`, `labels_cons`, `labels_perm`: counting goes tree by tree, in any order.
-/

namespace ApiAtlas

namespace Entity

section Induction

/-- Induction over lists of trees: the first tree is opened together with the rest. -/
theorem forest_induction {Q : List Entity → Prop}
    (nil : Q [])
    (cons : ∀ p cs es rest, Q cs → Q es → Q rest → Q (node p cs es :: rest)) :
    ∀ docs, Q docs
  | [] => nil
  | node p cs es :: rest =>
      cons p cs es rest (forest_induction nil cons cs) (forest_induction nil cons es)
        (forest_induction nil cons rest)

/-- Induction over a tree along what is nested in it. -/
theorem nested_induction {P : Entity → Prop}
    (node : ∀ p cs es, (∀ c ∈ cs, P c) → P (node p cs es)) (e : Entity) : P e := by
  have hall : ∀ docs : List Entity, ∀ d ∈ docs, P d := by
    intro docs
    induction docs using forest_induction with
    | nil =>
        simp
    | cons p cs es rest ihc _ ihr =>
        intro d hd
        rcases List.mem_cons.1 hd with rfl | hd
        · exact node p cs es ihc
        · exact ihr d hd
  exact hall [e] e (List.mem_singleton_self e)

end Induction

section Defs

mutual

/-- The entity without the extensions attached to it and to what is nested in it. -/
def bare : Entity → Entity
  | node p cs _ => node p (bareAll cs) []

/-- The entities of a list in their bare form. -/
def bareAll : List Entity → List Entity
  | [] => []
  | e :: rest => bare e :: bareAll rest

end

mutual

/-- The entity with everything below it, nested or attached. -/
def reach : Entity → List Entity
  | node p cs es => node p cs es :: (reachAll cs ++ reachAll es)

/-- Everything that a list of trees reaches. -/
def reachAll : List Entity → List Entity
  | [] => []
  | e :: rest => reach e ++ reachAll rest

end

/-- Everything that a list of trees reaches, each entity counted by its own fields. -/
def labels (docs : List Entity) : Multiset Profile :=
  ((reachAll docs).map profile : List Profile)

end Defs

section Bare

theorem bare_node (p : Profile) (cs es : List Entity) :
    bare (node p cs es) = node p (bareAll cs) [] := by
  rw [bare]

@[simp] theorem bareAll_nil : bareAll [] = [] := by
  rw [bareAll]

@[simp] theorem bareAll_cons (e : Entity) (rest : List Entity) :
    bareAll (e :: rest) = bare e :: bareAll rest := by
  rw [bareAll]

@[simp] theorem profile_bare (e : Entity) : e.bare.profile = e.profile := by
  cases e with
  | node p cs es =>
      rw [bare_node, profile_node, profile_node]

/-- Entities with one bare form have the same fields of their own. -/
theorem profile_eq_of_bare_eq {e e' : Entity} (h : e'.bare = e.bare) :
    e'.profile = e.profile := by
  have hp := congrArg profile h
  rwa [profile_bare, profile_bare] at hp

theorem bareAll_eq_map : ∀ docs : List Entity, bareAll docs = docs.map bare
  | [] => by simp
  | e :: rest => by simp [bareAll_eq_map rest]

/-- Whether entities document the same thing depends on their bare forms only. -/
theorem sameAsAll_of_bareAll_eq (cs : List Entity) :
    ∀ ds : List Entity, bareAll ds = bareAll cs → sameAsAll cs ds = true := by
  induction cs using forest_induction with
  | nil =>
      intro ds h
      rw [bareAll_eq_map, bareAll_nil, List.map_eq_nil_iff] at h
      subst h
      rw [sameAsAll]
  | cons p cs es rest ihc _ ihr =>
      intro ds h
      cases ds with
      | nil =>
          simp at h
      | cons d ds =>
          obtain ⟨q, cs', es'⟩ := d
          simp only [bareAll_cons, bare_node, List.cons.injEq, node.injEq] at h
          obtain ⟨⟨rfl, hcs, -⟩, hds⟩ := h
          rw [sameAsAll, sameAs, ihc cs' hcs, ihr ds hds]
          simp

/-- Entities with one bare form document the same thing. -/
theorem sameAs_of_bare_eq {e e' : Entity} (h : e'.bare = e.bare) : sameAs e e' = true := by
  have hall : sameAsAll [e] [e'] = true :=
    sameAsAll_of_bareAll_eq [e] [e'] (by simp [h])
  rw [sameAsAll, Bool.and_eq_true] at hall
  exact hall.1

end Bare

section Reach

theorem reach_node (p : Profile) (cs es : List Entity) :
    reach (node p cs es) = node p cs es :: (reachAll cs ++ reachAll es) := by
  rw [reach]

theorem reach_eq_cons (e : Entity) :
    reach e = e :: (reachAll e.children ++ reachAll e.extensions) := by
  cases e with
  | node p cs es => exact reach_node p cs es

@[simp] theorem reachAll_nil : reachAll [] = [] := by
  rw [reachAll]

@[simp] theorem reachAll_cons (e : Entity) (rest : List Entity) :
    reachAll (e :: rest) = reach e ++ reachAll rest := by
  rw [reachAll]

theorem reachAll_eq_flatMap : ∀ docs : List Entity, reachAll docs = docs.flatMap reach
  | [] => by simp
  | e :: rest => by simp [reachAll_eq_flatMap rest]

@[simp] theorem reachAll_append (as bs : List Entity) :
    reachAll (as ++ bs) = reachAll as ++ reachAll bs := by
  simp [reachAll_eq_flatMap]

theorem mem_reachAll {x : Entity} {docs : List Entity} :
    x ∈ reachAll docs ↔ ∃ d ∈ docs, x ∈ reach d := by
  rw [reachAll_eq_flatMap, List.mem_flatMap]

@[simp] theorem reachAll_singleton (e : Entity) : reachAll [e] = reach e := by
  rw [reachAll_cons, reachAll_nil, List.append_nil]

@[simp] theorem flatten_singleton (e : Entity) : flatten [e] = walk e := by
  rw [flatten_cons, flatten_nil, List.append_nil]

theorem flatten_eq_flatMap : ∀ docs : List Entity, flatten docs = docs.flatMap walk
  | [] => by simp
  | e :: rest => by simp [flatten_eq_flatMap rest]

/-- The traversal of a list of trees comes through each of them. -/
theorem flatten_eq_append_walk {ds : List Entity} {d : Entity} {k : Nat} (h : ds[k]? = some d) :
    flatten ds = flatten (ds.take k) ++ (d.walk ++ flatten (ds.drop (k + 1))) := by
  obtain ⟨hk, rfl⟩ := List.getElem?_eq_some_iff.1 h
  rw [← flatten_cons, List.getElem_cons_drop, ← flatten_append, List.take_append_drop]

theorem mem_walk_self (e : Entity) : e ∈ walk e := by
  rw [walk_eq_cons]
  exact List.mem_cons_self ..

theorem mem_reach_self (e : Entity) : e ∈ reach e := by
  rw [reach_eq_cons]
  exact List.mem_cons_self ..

theorem mem_reachAll_of_mem {d : Entity} {docs : List Entity} (hd : d ∈ docs) :
    d ∈ reachAll docs :=
  mem_reachAll.2 ⟨d, hd, mem_reach_self d⟩

/-- What a list reaches: its first tree, what is nested in it, what is attached to it, and what
the rest reaches. -/
theorem mem_reachAll_node {x : Entity} {p : Profile} {cs es rest : List Entity} :
    x ∈ reachAll (node p cs es :: rest) ↔
      x = node p cs es ∨ x ∈ reachAll cs ∨ x ∈ reachAll es ∨ x ∈ reachAll rest := by
  rw [reachAll_cons, reach_node, List.cons_append, List.mem_cons, List.append_assoc,
    List.mem_append, List.mem_append]

theorem mem_flatten_node {x : Entity} {p : Profile} {cs es rest : List Entity} :
    x ∈ flatten (node p cs es :: rest) ↔
      x = node p cs es ∨ x ∈ flatten cs ∨ x ∈ flatten rest := by
  rw [flatten_cons, walk_node, List.cons_append, List.mem_cons, List.mem_append]

theorem mem_flatten_of_mem_children {d e : Entity} {docs : List Entity} (hd : d ∈ docs)
    (he : e ∈ flatten d.children) : e ∈ flatten docs := by
  induction docs with
  | nil =>
      simp at hd
  | cons a docs ih =>
      rw [flatten_cons, List.mem_append]
      rcases List.mem_cons.1 hd with rfl | hd
      · rw [walk_eq_cons]
        exact Or.inl (List.mem_cons_of_mem d he)
      · exact Or.inr (ih hd)

/-- What is reached leads to nothing new. -/
theorem reach_subset_reachAll {x : Entity} {docs : List Entity} (hx : x ∈ reachAll docs) :
    reach x ⊆ reachAll docs := by
  induction docs using forest_induction with
  | nil =>
      simp at hx
  | cons p cs es rest ihc ihe ihr =>
      intro y hy
      rw [mem_reachAll_node] at hx ⊢
      rcases hx with rfl | hx | hx | hx
      · rw [reach_node, List.mem_cons, List.mem_append] at hy
        rcases hy with hy | hy | hy
        · exact Or.inl hy
        · exact Or.inr (Or.inl hy)
        · exact Or.inr (Or.inr (Or.inl hy))
      · exact Or.inr (Or.inl (ihc hx hy))
      · exact Or.inr (Or.inr (Or.inl (ihe hx hy)))
      · exact Or.inr (Or.inr (Or.inr (ihr hx hy)))

/-- The traversal is a part of what is reached. -/
theorem mem_reachAll_of_mem_flatten {x : Entity} {docs : List Entity} (hx : x ∈ flatten docs) :
    x ∈ reachAll docs := by
  induction docs using forest_induction with
  | nil =>
      simp at hx
  | cons p cs es rest ihc _ ihr =>
      rw [mem_flatten_node] at hx
      rw [mem_reachAll_node]
      rcases hx with hx | hx | hx
      · exact Or.inl hx
      · exact Or.inr (Or.inl (ihc hx))
      · exact Or.inr (Or.inr (Or.inr (ihr hx)))

theorem mem_reach_of_mem_walk {x e : Entity} (hx : x ∈ walk e) : x ∈ reach e := by
  rw [← reachAll_singleton]
  rw [← flatten_singleton] at hx
  exact mem_reachAll_of_mem_flatten hx

theorem reachAll_extensions_subset {e : Entity} {docs : List Entity} (he : e ∈ reachAll docs) :
    reachAll e.extensions ⊆ reachAll docs := by
  intro x hx
  apply reach_subset_reachAll he
  rw [reach_eq_cons]
  exact List.mem_cons_of_mem e (List.mem_append_right _ hx)

/-- Everything that is reached stands in the traversal, or is reached from the extensions of an
entity there. -/
theorem mem_reachAll_iff {x : Entity} {docs : List Entity} :
    x ∈ reachAll docs ↔
      x ∈ flatten docs ∨ ∃ e ∈ flatten docs, x ∈ reachAll e.extensions := by
  constructor
  · intro hx
    induction docs using forest_induction with
    | nil =>
        simp at hx
    | cons p cs es rest ihc _ ihr =>
        simp only [mem_flatten_node]
        rcases mem_reachAll_node.1 hx with hx | hx | hx | hx
        · exact Or.inl (Or.inl hx)
        · rcases ihc hx with hx | ⟨e, he, hx⟩
          · exact Or.inl (Or.inr (Or.inl hx))
          · exact Or.inr ⟨e, Or.inr (Or.inl he), hx⟩
        · exact Or.inr ⟨node p cs es, Or.inl rfl, hx⟩
        · rcases ihr hx with hx | ⟨e, he, hx⟩
          · exact Or.inl (Or.inr (Or.inr hx))
          · exact Or.inr ⟨e, Or.inr (Or.inr he), hx⟩
  · rintro (hx | ⟨e, he, hx⟩)
    · exact mem_reachAll_of_mem_flatten hx
    · exact reachAll_extensions_subset (mem_reachAll_of_mem_flatten he) hx

end Reach

section Labels

@[simp] theorem labels_nil : labels [] = 0 := by
  simp [labels]

@[simp] theorem labels_append (as bs : List Entity) :
    labels (as ++ bs) = labels as + labels bs := by
  simp [labels]

/-- A tree counts itself, what is nested in it and what is attached to it. -/
theorem labels_cons (e : Entity) (rest : List Entity) :
    labels (e :: rest) =
      {e.profile} + labels e.children + labels e.extensions + labels rest := by
  simp only [labels, reachAll_cons, reach_eq_cons, List.cons_append, List.map_cons,
    List.map_append, ← Multiset.cons_coe, ← Multiset.coe_add, ← Multiset.singleton_add, add_assoc]

theorem labels_eq_sum : ∀ docs : List Entity, labels docs = (docs.map fun d => labels [d]).sum
  | [] => by simp
  | d :: docs => by
      rw [List.map_cons, List.sum_cons, ← labels_eq_sum docs, ← labels_append,
        List.singleton_append]

/-- The order of the trees does not matter for counting. -/
theorem labels_perm {as bs : List Entity} (h : as.Perm bs) : labels as = labels bs := by
  rw [labels_eq_sum as, labels_eq_sum bs]
  exact (h.map _).sum_eq

end Labels

end Entity

end ApiAtlas
