import ApiAtlas.Disk
import ApiAtlas.Proofs.Merge.Soundness
import ApiAtlas.Store.Load

/-!
# Whole runs of a store

**Input.** A configuration, and the operations of a run in their order.

**Definitions.** An `Operation` is one call that changes a store; a file is read from a tree that
may differ from call to call.  `run?` applies operations one after another.  It has no result when
some merging does not come to an end; when the run breaks down over a payload, the store stays as
it is.

**Results.**
* `after?_cases`: what an operation can do to a store.
* `after?_sound`: every operation preserves the condition of `Merge.Sound`.
* `run?_grouped`: the forest of every run is grouped, and right after merging no extension is left
  at its top level.
-/

namespace ApiAtlas

namespace Store

open Merge

section Defs

/-- One call that changes a store. -/
inductive Operation
  /-- Adds the entities of a payload. -/
  | ingest (language : Payload.Language) (content : Payload.Content)
  /-- Adds the entities of a payload file of a file tree. -/
  | ingestFile (disk : Disk) (path : Path)
  /-- Adds the entities of source files. -/
  | addSources (sources : List Source)
  /-- Merges the extensions. -/
  | merge
  /-- Removes all entities. -/
  | clear

/-- The store after ingestion, also when the run breaks down over the payload. -/
def settle (s : Store) : Except Breakdown Ingested → Store
  | .ok r => r.store
  | .error _ => s

/-- The store after an operation, when it comes to an end. -/
def after? (s : Store) : Operation → Option Store
  | .ingest language content => some (s.settle (s.ingest language content))
  | .ingestFile disk path =>
      some (s.settle ((s.ingestFile path : StateM Disk (Except Breakdown Ingested)).run disk).1)
  | .addSources sources => some (s.addSources sources).store
  | .merge => s.merge?
  | .clear => some s.clear

/-- The store after operations, when all of them come to an end. -/
def run? (s : Store) : List Operation → Option Store
  | [] => some s
  | op :: ops => (s.after? op).bind fun s' => s'.run? ops

end Defs

section Steps

variable {s s' : Store}

/-- Ingestion adds the entities of source files or nothing. -/
theorem settle_ingestResult (s : Store) (origin : Text)
    (result : Except PayloadTrouble (List Source)) :
    s.settle (s.ingestResult origin result) = s ∨
      ∃ sources, s.settle (s.ingestResult origin result) = (s.addSources sources).store := by
  cases result with
  | ok sources =>
      exact Or.inr ⟨sources, rfl⟩
  | error trouble =>
      cases trouble with
      | refused e => exact Or.inl rfl
      | broken b => exact Or.inl rfl

/-- What an operation can do to a store. -/
theorem after?_cases {op : Operation} (h : s.after? op = some s') :
    s' = s ∨ (∃ sources, s' = (s.addSources sources).store) ∨ s.merge? = some s' ∨
      s' = s.clear := by
  cases op with
  | ingest language content =>
      rw [after?, Option.some.injEq] at h
      rcases settle_ingestResult s [] (Source.decode language content) with hsame | ⟨sources, hadd⟩
      · exact Or.inl (h.symm.trans hsame)
      · exact Or.inr (Or.inl ⟨sources, h.symm.trans hadd⟩)
  | ingestFile disk path =>
      rw [after?, Option.some.injEq] at h
      rcases settle_ingestResult s (" from ".toList ++ path.toText)
          ((Source.ofFile path.toText path : StateM Disk _).run disk).1 with hsame | ⟨sources, hadd⟩
      · exact Or.inl (h.symm.trans hsame)
      · exact Or.inr (Or.inl ⟨sources, h.symm.trans hadd⟩)
  | addSources sources =>
      rw [after?, Option.some.injEq] at h
      exact Or.inr (Or.inl ⟨sources, h.symm⟩)
  | merge =>
      exact Or.inr (Or.inr (Or.inl h))
  | clear =>
      rw [after?, Option.some.injEq] at h
      exact Or.inr (Or.inr (Or.inr h.symm))

/-- Every operation keeps the configuration and preserves the condition on the forest. -/
theorem after?_sound {op : Operation} (h : s.after? op = some s')
    (hs : Sound s.config.title s.docs) :
    s'.config = s.config ∧ Sound s.config.title s'.docs := by
  rcases after?_cases h with rfl | ⟨sources, rfl⟩ | hmerge | rfl
  · exact ⟨rfl, hs⟩
  · exact ⟨rfl, hs.append Source.entitiesOf_fresh⟩
  · obtain ⟨folded, hfolded, rfl⟩ := merge?_eq_some_iff.1 hmerge
    exact ⟨rfl, (hs.internal hfolded).external⟩
  · exact ⟨rfl, sound_nil⟩

theorem isSourceExtension_of_merge? (h : s.merge? = some s') :
    ∀ d ∈ s'.docs, d.isSourceExtension = false := by
  obtain ⟨folded, -, rfl⟩ := merge?_eq_some_iff.1 h
  intro d hd
  exact isSourceExtension_of_mem_external hd

end Steps

section Runs

variable {config : Config} {s : Store}

theorem run?_concat (s : Store) (ops : List Operation) (op : Operation) :
    s.run? (ops ++ [op]) = (s.run? ops).bind fun s' => s'.after? op := by
  induction ops generalizing s with
  | nil =>
      simp [run?]
  | cons a ops ih =>
      rw [List.cons_append, run?, run?, Option.bind_assoc]
      exact congrArg _ (funext fun s' => ih s')

/-- A run keeps its configuration, and its forest is sound: the induction follows the operations in
their order. -/
theorem run?_sound {ops : List Operation} (h : (empty config).run? ops = some s) :
    s.config = config ∧ Sound config.title s.docs := by
  induction ops using List.reverseRecOn generalizing s with
  | nil =>
      rw [run?, Option.some.injEq] at h
      rw [← h]
      exact ⟨rfl, sound_nil⟩
  | append_singleton ops op ih =>
      rw [run?_concat, Option.bind_eq_some_iff] at h
      obtain ⟨before, hbefore, hop⟩ := h
      obtain ⟨hconfig, hsound⟩ := ih hbefore
      rw [← hconfig] at hsound ⊢
      exact after?_sound hop hsound

/-- In every state of a run the forest is grouped, and right after merging no extension is left at
its top level. -/
theorem run?_grouped (config : Config) (ops : List Operation) {s : Store}
    (h : (empty config).run? ops = some s) :
    Grouped config.title s.docs ∧
      (ops.getLast? = some .merge → ∀ d ∈ s.docs, d.isSourceExtension = false) := by
  refine ⟨(run?_sound h).2.grouped, ?_⟩
  intro hlast
  obtain ⟨ops, rfl⟩ := List.getLast?_eq_some_iff.1 hlast
  rw [run?_concat, Option.bind_eq_some_iff] at h
  obtain ⟨before, -, hmerge⟩ := h
  exact isSourceExtension_of_merge? hmerge

end Runs

section Sample

/-- A type with an extension, and an extension of a type outside the project. -/
def twoExtensions : Source :=
  ⟨"M.swift".toList,
    [Record.ofPublic "class" "B" [],
      Record.ofPublic "extension" "B" [],
      Record.ofPublic "extension" "D" []]⟩

/-- A run that merges, reads more and merges again, so that the second merging meets a container
and an attached extension. -/
def mergeTwice : List Operation :=
  [.addSources [twoExtensions], .merge, .addSources [twoExtensions], .merge]

theorem mergeTwice_grouped :
    ∃ s, (empty {}).run? mergeTwice = some s ∧
      Grouped (Config.title {}) s.docs ∧
      mergeTwice.getLast? = some .merge ∧
      ∀ d ∈ s.docs, d.isSourceExtension = false := by
  have hsome : ((empty {}).run? mergeTwice).isSome = true := by
    decide +kernel
  obtain ⟨s, hs⟩ := Option.isSome_iff_exists.1 hsome
  obtain ⟨hgrouped, hlast⟩ := run?_grouped {} mergeTwice hs
  exact ⟨s, hs, hgrouped, rfl, hlast rfl⟩

end Sample

end Store

end ApiAtlas
