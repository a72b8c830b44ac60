import ApiAtlas.Proofs.Sorting
import ApiAtlas.Site

/-!
# The indices of a store

**Input.** A store in any state.

**Definitions.** `declared` lists the entities of the whole forest whose kinds belong to the closed
set, depth first.  The `position` of a kind is its place in the order of the top-level index.
`Indexed` says what the indices of a store have to do with its forest and with each other.

**Results.**
* `topLevelIndex_eq_mergeSort`: the top-level index is the declared part of the forest, sorted by
  the positions of the kinds, with the entities of one kind as they stand.
* `filter_topLevelIndex`: leaving out what is hidden can be done kind by kind.
* `indexed`: the indices of every store agree.
-/

namespace ApiAtlas

namespace Kind

/-- The kinds of the closed set in the order of the top-level index. -/
def closed : List Kind :=
  DeclKind.all.map decl

/-- The place of a kind in the order of the top-level index. -/
def position (k : Kind) : Nat :=
  closed.idxOf k

theorem nodup_closed : closed.Nodup := by
  decide

theorem mem_closed_iff {k : Kind} : k ∈ closed ↔ k.isDecl = true := by
  cases k with
  | decl k => simp [closed, isDecl]
  | other l => simp [closed, isDecl]

end Kind

namespace Store

variable (s : Store)

section Parts

/-- The entities of the forest whose kinds belong to the closed set, depth first. -/
def declared : List Entity :=
  (Entity.flatten s.docs).filter fun e => e.kind.isDecl

theorem indexOf_eq (k : Kind) :
    s.indexOf k = (Entity.flatten s.docs).filter fun e => e.kind == k := by
  simp [indexOf, search, isMatch]

/-- The index of a kind of the closed set is its class in the declared part of the forest. -/
theorem indexOf_eq_class {k : Kind} (hk : k ∈ Kind.closed) :
    s.indexOf k = s.declared.filter fun e => e.kind == k := by
  rw [indexOf_eq, declared, List.filter_filter]
  apply List.filter_congr
  intro e _
  by_cases he : e.kind = k
  · simp [he, Kind.mem_closed_iff.1 hk]
  · simp [he]

theorem topLevelIndex_eq_flatMap :
    s.topLevelIndex = Kind.closed.flatMap fun k => s.declared.filter fun e => e.kind == k := by
  have hindex : s.topLevelIndex = Kind.closed.flatMap fun k => s.indexOf k := by
    rw [topLevelIndex, Kind.closed, List.flatMap_map]
  rw [hindex]
  apply List.flatMap_congr
  intro k hk
  exact s.indexOf_eq_class hk

theorem mem_closed_of_mem_declared {e : Entity} (h : e ∈ s.declared) : e.kind ∈ Kind.closed :=
  Kind.mem_closed_iff.2 (List.mem_filter.1 h).2

/-- The top-level index is the declared part of the forest, sorted by the positions of the kinds. -/
theorem topLevelIndex_eq_mergeSort :
    s.topLevelIndex = s.declared.mergeSort fun a b => a.kind.position ≤ b.kind.position := by
  rw [topLevelIndex_eq_flatMap]
  exact Sorting.flatMap_classes_eq_mergeSort Entity.kind Kind.nodup_closed fun e he =>
    s.mem_closed_of_mem_declared he

/-- The class of a kind in the top-level index is the index of the kind. -/
theorem filter_kind_topLevelIndex {k : Kind} (hk : k ∈ Kind.closed) :
    (s.topLevelIndex.filter fun e => e.kind == k) = s.indexOf k := by
  rw [topLevelIndex_eq_flatMap, Sorting.filter_flatMap_classes Entity.kind Kind.nodup_closed,
    if_pos hk, indexOf_eq_class s hk]

end Parts

section Levels

/-- Leaving out what is hidden at a level can be done kind by kind. -/
theorem filter_topLevelIndex (minimum : Access) :
    (s.topLevelIndex.filter fun e => minimum ≤ e.access) =
      DeclKind.all.flatMap fun k => s.search none (some (.decl k)) minimum := by
  rw [topLevelIndex, List.filter_flatMap]
  apply List.flatMap_congr
  intro k _
  exact (s.search_filter none (some (.decl k)) (Access.priv_le minimum)).symm

end Levels

/-- What the indices of a store have to do with its forest and with each other. -/
structure Indexed : Prop where
  /-- The top-level index has every occurrence of an entity of the closed set once. -/
  occurrences : s.topLevelIndex.Perm s.declared
  /-- The top-level index has nothing else. -/
  closed : ∀ e ∈ s.topLevelIndex, e.kind.isDecl = true
  /-- It is in the order of the kinds. -/
  sorted : s.topLevelIndex = s.declared.mergeSort fun a b => a.kind.position ≤ b.kind.position
  /-- The entities of one kind are its index, and stand as in the forest. -/
  classes : ∀ k, (s.topLevelIndex.filter fun e => e.kind == .decl k) = s.indexOf (.decl k) ∧
    s.indexOf (.decl k) = (Entity.flatten s.docs).filter fun e => e.kind == .decl k
  /-- A search at a higher level is the visible part of the same search at a lower level. -/
  levels : ∀ title kind low high, low ≤ high →
    s.search title kind high = (s.search title kind low).filter fun e => high ≤ e.access
  /-- The visible part of the top-level index is found by a search kind by kind. -/
  searched : s.visibleIndex =
    DeclKind.all.flatMap fun k => s.search none (some (.decl k)) s.config.minimumAccess
  /-- The entities that have pages are the visible part of the top-level index. -/
  paged : ∀ writer, Site.entities ⟨s, s.config, writer⟩ = s.visibleIndex

/-- The indices of every store have all of its forest that belongs there, and agree with each
other. -/
theorem indexed : s.Indexed := by
  constructor
  case occurrences =>
    rw [topLevelIndex_eq_mergeSort]
    exact List.mergeSort_perm _ _
  case closed =>
    intro e he
    rw [topLevelIndex_eq_mergeSort, List.mem_mergeSort] at he
    exact (List.mem_filter.1 he).2
  case sorted => exact s.topLevelIndex_eq_mergeSort
  case classes =>
    intro k
    have hk : Kind.decl k ∈ Kind.closed := Kind.mem_closed_iff.2 rfl
    exact ⟨s.filter_kind_topLevelIndex hk, s.indexOf_eq (.decl k)⟩
  case levels =>
    intro title kind low high h
    exact s.search_filter title kind h
  case searched => exact s.filter_topLevelIndex s.config.minimumAccess
  case paged =>
    intro writer
    rfl

end Store

end ApiAtlas
