import ApiAtlas.Proofs.Record.Refusal
import ApiAtlas.Proofs.Store.Run
import Mathlib.Algebra.Ring.Nat

/-!
# Payloads one after another

**Input.** A store in any state, and payload values in the order in which they are ingested.

**Definitions.** `ingestEach` ingests payloads one after another and keeps the numbers that are
returned.  `Source.batch` is one payload with the objects of all those that are read.  When the run
breaks down over a payload nothing is returned, and the store stays as it is.

**Results.**
* `settle_ingestValue`: what one payload adds and returns.
* `ingestEach_eq`: what payloads add one after another.
* `ofValue_batch`: what they add in one piece.
* `ingestEach_batched`: both add the same, and a refused payload adds nothing.
-/

namespace ApiAtlas

namespace Source

section Defs

/-- The source files that a payload adds. -/
def contribution (v : Value) : List Source :=
  match ofValue v with
  | .ok sources => sources
  | .error _ => []

/-- Whether a payload is read. -/
def isAccepted (v : Value) : Bool :=
  match ofValue v with
  | .ok _ => true
  | .error _ => false

/-- The objects of all payloads that are read, as one payload. -/
def batch (payloads : List Value) : Value :=
  .list ((payloads.filter isAccepted).flatMap mappings)

end Defs

section Laws

variable {root : Option Path}

theorem entitiesOf_append (as bs : List Source) :
    entitiesOf root (as ++ bs) = entitiesOf root as ++ entitiesOf root bs :=
  List.flatMap_append

/-- The batch is read, and has the source files of every payload that is read. -/
theorem ofValue_batch (payloads : List Value) :
    ofValue (batch payloads) = .ok (payloads.flatMap contribution) := by
  change ofObjects ((payloads.filter isAccepted).flatMap mappings) = _
  induction payloads with
  | nil =>
      rfl
  | cons v payloads ih =>
      cases hv : ofValue v with
      | error t =>
          have hskip : isAccepted v = false := by rw [isAccepted, hv]
          have hnone : contribution v = [] := by rw [contribution, hv]
          rw [List.filter_cons_of_neg (by simp [hskip]), ih, List.flatMap_cons, hnone,
            List.nil_append]
      | ok sources =>
          have htake : isAccepted v = true := by rw [isAccepted, hv]
          have hsome : contribution v = sources := by rw [contribution, hv]
          rw [List.filter_cons_of_pos htake, List.flatMap_cons, List.flatMap_cons, hsome]
          exact ofObjects_append (ofObjects_of_ofValue hv).2 ih

end Laws

end Source

namespace Store

section Defs

/-- Adds the entities of a payload that was read into a value, or none of them when it is
refused. -/
def ingestValue (s : Store) (v : Value) : Except Breakdown Ingested :=
  s.ingestResult [] (Source.ofValue v)

/-- The number that ingestion returns, which is none when the run breaks down. -/
def returned : Except Breakdown Ingested → Nat
  | .ok r => r.count
  | .error _ => 0

/-- The store after payloads one after another, with the numbers that are returned. -/
def ingestEach (s : Store) : List Value → Store × List Nat
  | [] => (s, [])
  | v :: vs =>
    let result := s.ingestValue v
    let rest := ingestEach (s.settle result) vs
    (rest.1, returned result :: rest.2)

end Defs

section Steps

variable (s : Store)

theorem ingest_eq_ingestValue {language : Payload.Language} {content : Payload.Content} {v : Value}
    (h : Payload.decode language content = .ok v) :
    s.ingest language content = s.ingestValue v := by
  rw [ingest, Source.decode, h, ingestValue]

/-- What is refused leaves the store as it is, with a message. -/
theorem ingestValue_of_refused {v : Value} {e : PayloadError}
    (h : Source.ofValue v = .error (.refused e)) :
    ∃ message, s.ingestValue v = .ok ⟨s, 0, [message]⟩ := by
  rw [ingestValue, h]
  exact ⟨_, rfl⟩

theorem ingestValue_of_accepted {v : Value} {sources : List Source}
    (h : Source.ofValue v = .ok sources) :
    ∃ log, s.ingestValue v =
      .ok ⟨s.add (s.entitiesOf sources), (s.entitiesOf sources).length, log⟩ := by
  rw [ingestValue, h]
  exact ⟨_, rfl⟩

theorem ingestValue_of_broken {v : Value} {b : Breakdown}
    (h : Source.ofValue v = .error (.broken b)) : s.ingestValue v = .error b := by
  rw [ingestValue, h]
  rfl

@[simp] theorem add_nil : s.add [] = s := by
  rw [add, List.append_nil]

theorem add_add (as bs : List Entity) : (s.add as).add bs = s.add (as ++ bs) := by
  simp only [add, List.append_assoc]

/-- One payload adds the entities of its source files, and returns their number. -/
theorem settle_ingestValue (v : Value) :
    s.settle (s.ingestValue v) = s.add (s.entitiesOf (Source.contribution v)) ∧
      returned (s.ingestValue v) = (s.entitiesOf (Source.contribution v)).length := by
  rw [Source.contribution]
  cases hv : Source.ofValue v with
  | ok sources =>
      obtain ⟨log, hlog⟩ := s.ingestValue_of_accepted hv
      rw [hlog]
      exact ⟨rfl, rfl⟩
  | error t =>
      have hnone : s.entitiesOf [] = [] := rfl
      cases t with
      | refused e =>
          obtain ⟨message, hmessage⟩ := s.ingestValue_of_refused hv
          rw [hmessage, hnone, add_nil]
          exact ⟨rfl, rfl⟩
      | broken b =>
          rw [s.ingestValue_of_broken hv, hnone, add_nil]
          exact ⟨rfl, rfl⟩

end Steps

section Runs

/-- Payloads one after another add the entities of all their source files in order, and the numbers
returned add up to the number of entities. -/
theorem ingestEach_eq (s : Store) (payloads : List Value) :
    (s.ingestEach payloads).1 = s.add (s.entitiesOf (payloads.flatMap Source.contribution)) ∧
      (s.ingestEach payloads).2.sum =
        (s.entitiesOf (payloads.flatMap Source.contribution)).length := by
  induction payloads generalizing s with
  | nil =>
      exact ⟨s.add_nil.symm, rfl⟩
  | cons v payloads ih =>
      obtain ⟨hstore, hcount⟩ := s.settle_ingestValue v
      have hafter := ih (s.settle (s.ingestValue v))
      rw [hstore] at hafter
      rw [ingestEach, List.flatMap_cons, entitiesOf, Source.entitiesOf_append, List.length_append,
        ← add_add, List.sum_cons, hcount, hstore]
      exact ⟨hafter.1, congrArg _ hafter.2⟩

/-- What ingestion of payloads does to a store. -/
structure Batched (s : Store) (payloads : List Value) : Prop where
  /-- Ingestion of a payload works on the value that was read from it. -/
  decoded : ∀ language content v, Payload.decode language content = .ok v →
    s.ingest language content = s.ingestValue v
  /-- One flaw anywhere leaves the store as it is; and zero is returned, with a message, unless a
  path of the payload cannot be shown. -/
  flawed : ∀ v, Source.Flawed v → s.settle (s.ingestValue v) = s ∧
    (Source.Showable v → ∃ message, s.ingestValue v = .ok ⟨s, 0, [message]⟩)
  /-- Whatever is refused leaves the store as it is, and zero is returned. -/
  refused : ∀ v e, Source.ofValue v = .error (.refused e) →
    ∃ message, s.ingestValue v = .ok ⟨s, 0, [message]⟩
  /-- Whatever is read adds all its entities, and their number is returned. -/
  accepted : ∀ v sources, Source.ofValue v = .ok sources →
    ∃ log, s.ingestValue v =
      .ok ⟨s.add (s.entitiesOf sources), (s.entitiesOf sources).length, log⟩
  /-- The payloads one after another and their batch lead to the same store, and the numbers
  returned on the way add up to the one for the batch. -/
  batch : ∃ log, s.ingestValue (Source.batch payloads) =
    .ok ⟨(s.ingestEach payloads).1, (s.ingestEach payloads).2.sum, log⟩
  /-- The numbers returned add up to the growth of the store. -/
  growth : (s.ingestEach payloads).1.docs.length =
    s.docs.length + (s.ingestEach payloads).2.sum

theorem ingestValue_of_flawed (s : Store) {v : Value} (h : Source.Flawed v) :
    s.settle (s.ingestValue v) = s ∧
      (Source.Showable v → ∃ message, s.ingestValue v = .ok ⟨s, 0, [message]⟩) := by
  cases hv : Source.ofValue v with
  | ok sources =>
      exact absurd hv (Source.ofValue_ne_ok_of_flawed h sources)
  | error t =>
      cases t with
      | refused e =>
          obtain ⟨message, hmessage⟩ := s.ingestValue_of_refused hv
          refine ⟨?_, fun _ => ⟨message, hmessage⟩⟩
          rw [hmessage]
          rfl
      | broken b =>
          refine ⟨?_, fun hshow => absurd hv (Source.ofValue_ne_broken hshow b)⟩
          rw [s.ingestValue_of_broken hv]
          rfl

/-- A payload adds all its entities or none of them, and payloads add the same one after another and
in one piece. -/
theorem ingestEach_batched (s : Store) (payloads : List Value) : Batched s payloads := by
  obtain ⟨hstore, hsum⟩ := s.ingestEach_eq payloads
  refine
    { decoded := fun _ _ _ => s.ingest_eq_ingestValue
      flawed := fun _ => s.ingestValue_of_flawed
      refused := fun _ _ => s.ingestValue_of_refused
      accepted := fun _ _ => s.ingestValue_of_accepted
      batch := ?_
      growth := ?_ }
  · rw [hstore, hsum]
    exact s.ingestValue_of_accepted (Source.ofValue_batch payloads)
  · rw [hstore, hsum, add, List.length_append]

end Runs

end Store

end ApiAtlas
