import ApiAtlas.Markup.Build
import ApiAtlas.Proofs.Markup.Links
import Mathlib.Data.Finset.Card
import Mathlib.Data.List.DropRight

/-!
# The history of a registry

**Input.** The operations on one registry in their order.

**Definitions.** An `Operation` is one call that records link targets, asks for one, or empties the
registry.  `after` is the registry after operations that start with an empty one; `since` are the
targets recorded since it was last emptied, with repetitions.  `FirstOccurrences` says what it
means to keep the first of equal texts.  A registry `Recalls` the targets that were recorded when
its order, its size and all its answers follow from them.

**Results.**
* `firstOccurrences_distinct`: the distinct texts of a list are its first occurrences.
* `links_apply`: an operation empties the registry or adds at the end what is new.
* `links_after`: a registry holds the distinct targets of its history.
* `after_recalls`: at every point of every run the registry recalls its history.
-/

namespace ApiAtlas

namespace Text

/-- Whether `us` has the texts of `ts`, each once, in the order in which they first occur. -/
structure FirstOccurrences (ts us : List Text) : Prop where
  once : us.Nodup
  same : ∀ t, t ∈ us ↔ t ∈ ts
  order : us.Pairwise fun t u => ts.idxOf t < ts.idxOf u

section Distinct

theorem pairwise_distinct (ts : List Text) :
    (distinct ts).Pairwise fun t u => ts.idxOf t < ts.idxOf u := by
  induction ts with
  | nil =>
      simp [distinct]
  | cons a ts ih =>
      rw [distinct, List.pairwise_cons]
      constructor
      · intro u hu
        have hne : u ≠ a := by simpa using (List.mem_filter.1 hu).2
        rw [List.idxOf_cons_self, List.idxOf_cons_ne ts hne.symm]
        exact Nat.succ_pos _
      · refine (ih.filter _).imp_of_mem ?_
        intro t u ht hu hlt
        have hta : t ≠ a := by simpa using (List.mem_filter.1 ht).2
        have hua : u ≠ a := by simpa using (List.mem_filter.1 hu).2
        rw [List.idxOf_cons_ne ts hta.symm, List.idxOf_cons_ne ts hua.symm]
        exact Nat.succ_lt_succ hlt

/-- The distinct texts of a list are its first occurrences. -/
theorem firstOccurrences_distinct (ts : List Text) : FirstOccurrences ts (distinct ts) :=
  ⟨nodup_distinct ts, fun _ => mem_distinct, pairwise_distinct ts⟩

/-- What is distinct already may be made so again with what comes before it. -/
theorem distinct_append_distinct (ts us : List Text) :
    distinct (ts ++ distinct us) = distinct (ts ++ us) := by
  rw [distinct_append, distinct_append, distinct_of_nodup (nodup_distinct us)]

theorem length_distinct (ts : List Text) : (distinct ts).length = ts.toFinset.card := by
  have hsame : (distinct ts).toFinset = ts.toFinset := by
    ext t
    simp
  rw [← hsame, List.toFinset_card_of_nodup (nodup_distinct ts)]

end Distinct

end Text

namespace Registry

open Markup

section Defs

/-- One call that uses a registry. -/
inductive Operation
  /-- Registers a target. -/
  | register (url : Text)
  /-- Builds an expression, which may be a single link, and records its links. -/
  | build (recipe : Recipe)
  /-- Asks whether a target is registered. -/
  | contains (url : Text)
  /-- Takes all targets out. -/
  | drain
  /-- Forgets all targets. -/
  | clear
  /-- Finishes a document, which takes all targets out. -/
  | finalize (node : Node)

/-- What a call gives back. -/
inductive Answer
  | done
  | node (n : Node)
  | truth (b : Bool)
  | links (us : List Text)
  | text (t : Text)

/-- The answer to an operation and the registry after it. -/
def apply (r : Registry) : Operation → Answer × Registry
  | .register u => (.done, r.register u)
  | .build recipe => (.node (recipe.buildWith r).1, (recipe.buildWith r).2)
  | .contains u => (.truth (r.contains u), r)
  | .drain => (.links r.drain.1, r.drain.2)
  | .clear => (.done, empty)
  | .finalize n => (.text (finalizeWith n r).1, (finalizeWith n r).2)

/-- The registry after operations that start with an empty one. -/
def after (ops : List Operation) : Registry :=
  ops.foldl (fun r op => (r.apply op).2) empty

/-- Whether an operation leaves nothing in the registry. -/
def Operation.empties : Operation → Bool
  | drain | clear | finalize _ => true
  | register _ | build _ | contains _ => false

/-- The targets that an operation registers, in order. -/
def Operation.recorded : Operation → List Text
  | register u => [u]
  | build recipe => recipe.recorded
  | contains _ | drain | clear | finalize _ => []

/-- The targets registered since the registry was last emptied, in order. -/
def since (ops : List Operation) : List Text :=
  (ops.rtakeWhile fun op => !op.empties).flatMap Operation.recorded

end Defs

section Steps

variable (r : Registry) (ops : List Operation) (op : Operation)

/-- An operation empties the registry or adds at the end what is new. -/
theorem links_apply :
    (r.apply op).2.links =
      if op.empties then []
      else r.links ++ (Text.distinct op.recorded).filter (fun u => !r.links.contains u) := by
  cases op with
  | register u => exact links_foldl_register [u] r
  | build recipe => exact links_foldl_register recipe.recorded r
  | contains u => exact (List.append_nil _).symm
  | drain => rfl
  | clear => rfl
  | finalize n => rfl

theorem since_concat :
    since (ops ++ [op]) = if op.empties then [] else since ops ++ op.recorded := by
  rw [since, List.rtakeWhile_concat]
  cases op.empties with
  | true => simp
  | false => simp [since]

theorem after_concat : after (ops ++ [op]) = ((after ops).apply op).2 := by
  rw [after, List.foldl_concat, after]

end Steps

/-- A registry holds the distinct targets of its history. -/
theorem links_after (ops : List Operation) : (after ops).links = Text.distinct (since ops) := by
  -- the last operation comes last in the history too, so the induction is from the end
  induction ops using List.reverseRecOn with
  | nil =>
      rfl
  | append_singleton ops op ih =>
      rw [after_concat, links_apply, since_concat, ih]
      cases op.empties with
      | true => rfl
      | false => simp [Text.distinct_append]

example :
    (after [.register ['a'], .drain, .register ['c'], .register ['b'], .register ['c']]).links =
      [['c'], ['b']] := by
  decide

/-- What a registry holds and answers when `us` was registered since it was last emptied. -/
structure Recalls (r : Registry) (us : List Text) : Prop where
  /-- The targets come in the order in which they were first registered. -/
  order : r.links = Text.distinct us
  /-- As many are held as there are different ones. -/
  size : r.size = us.toFinset.card
  /-- What was registered is found, and nothing else; asking changes nothing. -/
  found : ∀ u, r.apply (.contains u) = (.truth (decide (u ∈ us)), r)
  /-- A drain gives these targets back and leaves none. -/
  drained : r.apply .drain = (.links (Text.distinct us), empty)
  /-- A target that is registered again keeps its place. -/
  again : ∀ u ∈ us, r.apply (.register u) = (.done, r)
  /-- Until the registry is emptied, what it holds stays where it is. -/
  steady : ∀ op : Operation, op.empties = false → r.links <+: (r.apply op).2.links
  /-- A document ends with the definitions of its own targets and of these, and takes them out. -/
  finished : ∀ n, r.apply (.finalize n) =
    (.text ((render .reference 0 n).text ++
      '\n' :: definitions ((render .reference 0 n).links ++ us)), empty)

/-- A registry that holds the distinct targets of its history answers accordingly. -/
theorem recalls_of_links {r : Registry} {us : List Text} (h : r.links = Text.distinct us) :
    Recalls r us := by
  constructor
  case order => exact h
  case size => rw [size, h, Text.length_distinct]
  case found =>
    intro u
    simp [apply, contains, h]
  case drained => rw [apply, drain, h]
  case again =>
    intro u hu
    have hheld : u ∈ r.links := by rwa [h, Text.mem_distinct]
    simp [apply, register, hheld]
  case steady =>
    intro op hop
    rw [links_apply, hop]
    exact List.prefix_append _ _
  case finished =>
    intro n
    simp only [apply, finalizeWith, drain, definitions, h, Text.distinct_append_distinct]

/-- At every point of every run a registry recalls what was registered since it was last emptied;
the distinct texts that this speaks of are first occurrences, and a later list adds what is new. -/
theorem after_recalls :
    (∀ ops : List Operation, Recalls (after ops) (since ops)) ∧
      (∀ us : List Text, Text.FirstOccurrences us (Text.distinct us)) ∧
      ∀ us vs : List Text, Text.distinct (us ++ vs) =
        Text.distinct us ++ (Text.distinct vs).filter fun v => v ∉ us := by
  refine ⟨?_, Text.firstOccurrences_distinct, ?_⟩
  · intro ops
    exact recalls_of_links (links_after ops)
  · intro us vs
    rw [Text.distinct_append]
    congr 1
    apply List.filter_congr
    intro v _
    simp

end Registry

end ApiAtlas
