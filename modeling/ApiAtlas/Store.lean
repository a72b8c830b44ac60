import ApiAtlas.Config
import ApiAtlas.Record.Convert

/-!
# The store of entities

**Input.** Payloads and entities, in any order, with merging in between.

**Definitions.** A `Store` owns the forest under one configuration.  Ingestion adds all entities
of a payload or none.  Queries go through the whole forest, depth first: `search` by title, kind
and access level, `indexOf` by kind, and `topLevelIndex` by all kinds of the closed set, one
after another.

**Results.** Merging is one pass after the other (`merge?_eq_some_iff`), and a query with a higher
level is a part of the one with a lower level (`search_filter`).
-/

namespace ApiAtlas

/-- The forest of a run with its configuration. -/
structure Store where
  /-- The configuration. -/
  config : Config
  /-- The entities at the top level. -/
  docs : List Entity
deriving Inhabited

/-- What ingestion did: the store after it, the number of new entities at the top level, and the
messages. -/
structure Ingested where
  /-- The store after ingestion. -/
  store : Store
  /-- The number of new entities at the top level. -/
  count : Nat
  /-- The messages. -/
  log : List Log.Message
deriving Inhabited

namespace Store

section Ingestion

/-- The store without entities. -/
def empty (config : Config) : Store :=
  ⟨config, []⟩

/-- The store with more entities. -/
def add (s : Store) (es : List Entity) : Store :=
  { s with docs := s.docs ++ es }

/-- The entities of source files in this store. -/
def entitiesOf (s : Store) (sources : List Source) : List Entity :=
  Source.entitiesOf s.config.projectRoot sources

/-- The report of the records of source files that are left out. -/
def skipLog (s : Store) (sources : List Source) : List Log.Message :=
  Source.skipLog s.config.projectRoot sources

/-- Adds the entities of source files. -/
def addSources (s : Store) (sources : List Source) : Ingested :=
  let es := s.entitiesOf sources
  ⟨s.add es, es.length, s.skipLog sources⟩

/-- Adds the entities of a decoded payload, or none of them when it was refused; `origin` names the
payload in the messages. -/
def ingestDecoded (s : Store) (origin : Text) (result : Except PayloadError (List Source)) :
    Ingested :=
  match result with
  | .error e => ⟨s, 0, [⟨.error, "Error decoding docs".toList ++ origin ++ ": ".toList ++
      e.message⟩]⟩
  | .ok sources =>
    let r := s.addSources sources
    { r with log := r.log ++ [⟨.changes, "Ingested ".toList ++ Text.ofNat r.count ++
        " top-level entities".toList ++ origin⟩] }

/-- Adds the entities of a payload that was decoded or refused, unless the run breaks down over
it. -/
def ingestResult (s : Store) (origin : Text) :
    Except PayloadTrouble (List Source) → Except Breakdown Ingested
  | .ok sources => .ok (s.ingestDecoded origin (.ok sources))
  | .error (.refused e) => .ok (s.ingestDecoded origin (.error e))
  | .error (.broken b) => .error b

/-- Adds the entities of a payload, or none of them when it is refused. -/
def ingest (s : Store) (language : Payload.Language) (content : Payload.Content) :
    Except Breakdown Ingested :=
  s.ingestResult [] (Source.decode language content)

/-- The store without its entities. -/
def clear (s : Store) : Store :=
  { s with docs := [] }

/-- The store after both passes of merging, when they come to an end. -/
def merge? (s : Store) : Option Store :=
  (Merge.merge? s.config.merge s.config.title s.docs).map fun docs => { s with docs := docs }

/-- The report of merging. -/
def mergeLog (s : Store) : List Log.Message :=
  Merge.mergeLog s.config.merge s.docs

end Ingestion

section Queries

/-- Whether an entity matches a query: its title contains a text, letter case aside, and its kind
is the given one. -/
def isMatch (title : Option Text) (kind : Option Kind) (e : Entity) : Bool :=
  (title.elim true fun t => Text.occursIn t.lower e.title.lower) &&
    (kind.elim true fun k => e.kind == k)

/-- The level of a query that names none. -/
def usualLevel : Access :=
  .internal

/-- The entities of the whole forest that match a query and are visible at a level. -/
def search (s : Store) (title : Option Text) (kind : Option Kind) (minimum : Access) :
    List Entity :=
  (Entity.flatten s.docs).filter fun e => decide (minimum ≤ e.access) && isMatch title kind e

/-- All entities of a kind. -/
def indexOf (s : Store) (kind : Kind) : List Entity :=
  s.search none (some kind) .priv

/-- All entities of the closed set of kinds, kind by kind. -/
def topLevelIndex (s : Store) : List Entity :=
  DeclKind.all.flatMap fun k => s.indexOf (.decl k)

/-- The entities of the top-level index that are visible at the level of the configuration. -/
def visibleIndex (s : Store) : List Entity :=
  s.topLevelIndex.filter fun e => s.config.minimumAccess ≤ e.access

end Queries

section Laws

/-- Merging folds first, and groups what folding leaves. -/
theorem merge?_eq_some_iff {s merged : Store} :
    s.merge? = some merged ↔
      ∃ folded,
        Merge.internal? s.config.merge.duplicateInternalMatches s.docs = some folded ∧
        merged =
          { s with
            docs := Merge.external s.config.title s.config.merge.reverseExternalOrder folded } := by
  rw [merge?, Merge.merge?, Option.map_map, Option.map_eq_some_iff]
  simp only [Function.comp_apply, eq_comm]

/-- A query with a higher level is a part of the one with a lower level. -/
theorem search_filter (s : Store) (title : Option Text) (kind : Option Kind) {low high : Access}
    (h : low ≤ high) :
    s.search title kind high = (s.search title kind low).filter fun e => high ≤ e.access := by
  simp only [search, List.filter_filter]
  apply List.filter_congr
  intro e _
  by_cases hh : high ≤ e.access
  · simp [hh, Access.le_trans h hh]
  · simp [hh]

end Laws

end Store

end ApiAtlas
