import ApiAtlas.Proofs.Merge.Rebuild
import Mathlib.Logic.Relation

/-!
# Which entry hosts which extension

**Input.** The top level of a forest.  Entries are named by their places, so that entries that look
alike stay apart.

**Definitions.** `TakesUp` says when an entity takes up the extensions of its title, in terms of
the entities before it in the depth-first order of the whole forest.  `Matched` says that an entry
is an extension with some host in the forest, and `remaining` lists the places of all other
entries.  `HostedBy` relates an extension to the entries in which some entity takes it up, and
`Placed` follows these steps up to an entry that remains.

**Results.**
* `receives_iff_takesUp`, `isHosted_iff_matched`: the tests of the recursion are these conditions.
* `entryWith_at_place`: what rebuilding an entry does at each place of its traversal.
* `entryWith_source`: where an entity of a rebuilt entry comes from.
* `matched_iff_hosted`: an extension is matched exactly when some entry hosts it.
* `placed_of_rank`: a rank that falls from each extension to its hosts places every entry.
-/

namespace ApiAtlas

namespace Merge

open Entity

section Defs

/-- Whether an entity takes up the extensions of its title, given the entities before it in the
depth-first order of the whole forest: extensions can be folded into it, and, unless every such
entity takes them up, none of its title stands before it. -/
def TakesUp (everywhere : Bool) (earlier : List Entity) (e : Entity) : Prop :=
  e.extendable = true ∧
    (everywhere = true ∨ ∀ h ∈ earlier, h.extendable = true → h.title ≠ e.title)

instance (everywhere : Bool) (earlier : List Entity) (e : Entity) :
    Decidable (TakesUp everywhere earlier e) :=
  inferInstanceAs (Decidable (_ ∧ _))

/-- Whether an entry is an extension that has the title of some host, nested or not. -/
def Matched (docs : List Entity) (d : Entity) : Prop :=
  d.isSourceExtension = true ∧
    ∃ h ∈ flatten docs, h.extendable = true ∧ h.title = d.title

instance (docs : List Entity) (d : Entity) : Decidable (Matched docs d) :=
  inferInstanceAs (Decidable (_ ∧ _))

/-- The places of the entries that stay at the top level, in order. -/
def remaining (docs : List Entity) : List (Fin docs.length) :=
  placesOf (fun d => ¬ Matched docs d) docs

/-- Whether the extension at place `j` is taken up by some entity in the tree at place `i`. -/
def HostedBy (everywhere : Bool) (docs : List Entity) (j i : Fin docs.length) : Prop :=
  (entry docs j).isSourceExtension = true ∧
    ∃ pre e post,
      (entry docs i).walk = pre ++ e :: post ∧
      e.title = (entry docs j).title ∧
      TakesUp everywhere (flatten (docs.take i) ++ pre) e

/-- Whether an entry remains, or is hosted, in one step or several, by an entry that remains. -/
def Placed (everywhere : Bool) (docs : List Entity) (j : Fin docs.length) : Prop :=
  ∃ i ∈ remaining docs, Relation.ReflTransGen (HostedBy everywhere docs) j i

end Defs

section Tests

variable {everywhere : Bool} {docs : List Entity}

/-- The titles before an entity decide whether it takes up extensions. -/
theorem receives_iff_takesUp {earlier : List Entity} {e : Entity} :
    receives everywhere (titlesOf earlier) e.profile = true ↔
      TakesUp everywhere earlier e := by
  have hfree : (titlesOf earlier).contains e.profile.title = false ↔
      ∀ h ∈ earlier, h.extendable = true → h.title ≠ e.title := by
    rw [← Bool.not_eq_true, List.contains_iff_mem, mem_titlesOf]
    constructor
    · intro hno h hh hext ht
      exact hno ⟨h, hh, hext, ht⟩
    · rintro hall ⟨h, hh, hext, ht⟩
      exact hall h hh hext ht
  rw [receives, Bool.and_eq_true, Bool.or_eq_true, Bool.not_eq_true', hfree]
  exact Iff.rfl

theorem isHosted_iff_matched {d : Entity} : isHosted docs d = true ↔ Matched docs d := by
  rw [isHosted, Bool.and_eq_true, List.contains_iff_mem, hostTitles_eq, mem_titlesOf]
  exact Iff.rfl

/-- An extension is no host itself. -/
theorem extendable_of_isSourceExtension {d : Entity} (h : d.isSourceExtension = true) :
    d.extendable = false := by
  rw [Entity.isSourceExtension, Profile.isSourceExtension, Bool.and_eq_true, beq_iff_eq] at h
  rw [Entity.extendable, Entity.kind, h.1]
  rfl

@[simp] theorem mem_remaining {i : Fin docs.length} :
    i ∈ remaining docs ↔ ¬ Matched docs (entry docs i) := by
  simp [remaining]

theorem not_isHosted_eq (docs : List Entity) :
    (fun d => !isHosted docs d) = fun d => decide (¬ Matched docs d) := by
  funext d
  rw [Bool.eq_iff_iff, Bool.not_eq_true', ← Bool.not_eq_true, isHosted_iff_matched,
    decide_eq_true_iff]

/-- Folding rebuilds the entries that remain. -/
theorem internal?_eq_mapM_remaining (everywhere : Bool) (docs : List Entity) :
    internal? everywhere docs = (remaining docs).mapM (rebuiltAt everywhere docs) := by
  rw [internal?_eq_mapM, not_isHosted_eq, remaining]

end Tests

section Walks

variable {everywhere : Bool} {docs : List Entity}

/-- An entity of the traversal of a forest stands in the traversal of one of its trees. -/
theorem exists_walk_of_flatten_eq {pre post : List Entity} {e : Entity}
    (h : flatten docs = pre ++ e :: post) :
    ∃ (i : Fin docs.length) (before after : List Entity),
      (entry docs i).walk = before ++ e :: after ∧ pre = flatten (docs.take i) ++ before := by
  induction docs generalizing pre with
  | nil =>
      simp at h
  | cons d ds ih =>
      rw [flatten_cons, List.append_eq_append_iff] at h
      rcases h with ⟨pre', rfl, hds⟩ | ⟨rest, hd, hrest⟩
      · obtain ⟨i, before, after, hw, rfl⟩ := ih hds
        exact ⟨i.succ, before, after, hw, by simp⟩
      · cases rest with
        | nil =>
            -- The first tree ends just before the entity.
            obtain ⟨i, before, after, hw, hpre⟩ := @ih [] hrest.symm
            refine ⟨i.succ, before, after, hw, ?_⟩
            simp [← hpre, hd]
        | cons a rest =>
            obtain ⟨rfl, rfl⟩ := List.cons.inj hrest
            exact ⟨⟨0, by simp⟩, pre, rest, hd, by simp⟩

theorem mem_flatten {e : Entity} :
    e ∈ flatten docs ↔ ∃ i : Fin docs.length, e ∈ (entry docs i).walk := by
  induction docs with
  | nil =>
      simp
  | cons d ds ih =>
      rw [flatten_cons, List.mem_append, ih]
      constructor
      · rintro (h | ⟨i, h⟩)
        · exact ⟨⟨0, by simp⟩, h⟩
        · exact ⟨i.succ, h⟩
      · rintro ⟨i, h⟩
        cases i using Fin.cases with
        | zero => exact Or.inl h
        | succ i => exact Or.inr ⟨i, h⟩

/-- What an entity takes up, given the entities before it. -/
theorem intake_takesUp {give : Text → Option (List Entity)} {earlier more : List Entity}
    {e : Entity} (h : intake everywhere give (titlesOf earlier) e.profile = some more) :
    (TakesUp everywhere earlier e → give e.title = some more) ∧
      (¬ TakesUp everywhere earlier e → more = []) := by
  constructor
  · intro ht
    rwa [intake_of_receives (receives_iff_takesUp.2 ht)] at h
  · intro ht
    have hr : receives everywhere (titlesOf earlier) e.profile = false :=
      Bool.not_eq_true _ ▸ mt receives_iff_takesUp.1 ht
    rw [intake_of_not_receives hr] at h
    exact (Option.some.inj h).symm

/-- A rebuilt entry is aligned with the entry it came from. -/
theorem entryWith_aligned {give : Text → Option (List Entity)} {i : Fin docs.length}
    {d : Entity} (h : entryWith everywhere give docs i = some d) :
    Aligned everywhere give (titlesOf (flatten (docs.take i))) (entry docs i).walk d.walk := by
  have hal := rebuildAll_aligned (rebuildAll_singleton.2 h)
  simpa only [hostTitles_eq, flatten_singleton] using hal

/-- What rebuilding an entry does at each place of its traversal: the entity keeps its bare form
and gains the extensions of its title exactly when it takes them up. -/
theorem entryWith_at_place {give : Text → Option (List Entity)} {i : Fin docs.length}
    {d e : Entity} {pre post : List Entity}
    (h : entryWith everywhere give docs i = some d)
    (hw : (entry docs i).walk = pre ++ e :: post) :
    ∃ e' more,
      d.walk[pre.length]? = some e' ∧
      e'.bare = e.bare ∧
      e'.extensions = e.extensions ++ more ∧
      (TakesUp everywhere (flatten (docs.take i) ++ pre) e → give e.title = some more) ∧
      (¬ TakesUp everywhere (flatten (docs.take i) ++ pre) e → more = []) := by
  obtain ⟨e', more, hat, hbare, hmore, hext⟩ := (entryWith_aligned h).at_place hw
  rw [← titlesOf_append] at hmore
  exact ⟨e', more, hat, hbare, hext, intake_takesUp hmore⟩

/-- Where an entity of a rebuilt entry comes from. -/
theorem entryWith_source {give : Text → Option (List Entity)} {i : Fin docs.length}
    {d e' : Entity} (h : entryWith everywhere give docs i = some d) (he : e' ∈ d.walk) :
    ∃ pre e post more,
      (entry docs i).walk = pre ++ e :: post ∧
      e'.bare = e.bare ∧
      e'.extensions = e.extensions ++ more ∧
      (TakesUp everywhere (flatten (docs.take i) ++ pre) e → give e.title = some more) ∧
      (¬ TakesUp everywhere (flatten (docs.take i) ++ pre) e → more = []) := by
  obtain ⟨pre, e, post, more, hw, hbare, hmore, hext⟩ := (entryWith_aligned h).source he
  rw [← titlesOf_append] at hmore
  exact ⟨pre, e, post, more, hw, hbare, hext, intake_takesUp hmore⟩

/-- An entry can be rebuilt when the extensions of every title are there that it takes up. -/
theorem exists_entryWith {give : Text → Option (List Entity)} {i : Fin docs.length}
    (h : ∀ pre e post, (entry docs i).walk = pre ++ e :: post →
      TakesUp everywhere (flatten (docs.take i) ++ pre) e → ∃ xs, give e.title = some xs) :
    ∃ d, entryWith everywhere give docs i = some d := by
  have hintake : ∀ pre e post, flatten [entry docs i] = pre ++ e :: post →
      ∃ more, intake everywhere give (hostTitles (docs.take i) ++ titlesOf pre) e.profile =
        some more := by
    intro pre e post hw
    rw [flatten_singleton] at hw
    rw [hostTitles_eq, ← titlesOf_append]
    cases hr : receives everywhere (titlesOf (flatten (docs.take i) ++ pre)) e.profile with
    | true =>
        rw [intake_of_receives hr]
        exact h pre e post hw (receives_iff_takesUp.1 hr)
    | false =>
        exact ⟨[], intake_of_not_receives hr⟩
  obtain ⟨ds, hds⟩ := exists_rebuildAll hintake
  obtain ⟨d, -, hd, -, -⟩ := rebuildAll_cons.1 hds
  exact ⟨d, hd⟩

end Walks

section Hosts

variable {everywhere : Bool} {docs : List Entity} {i j : Fin docs.length}

theorem HostedBy.exists_host (h : HostedBy everywhere docs j i) :
    ∃ e ∈ (entry docs i).walk, e.extendable = true ∧ e.title = (entry docs j).title := by
  obtain ⟨-, pre, e, post, hw, ht, hup⟩ := h
  refine ⟨e, ?_, hup.1, ht⟩
  rw [hw]
  exact List.mem_append_right pre (List.mem_cons_self ..)

/-- The first host of a title in a traversal takes up the extensions of that title. -/
theorem exists_first_host {es : List Entity} {t : Text}
    (h : ∃ e ∈ es, e.extendable = true ∧ e.title = t) :
    ∃ pre e post, es = pre ++ e :: post ∧ e.title = t ∧ TakesUp false pre e := by
  induction es with
  | nil =>
      simp at h
  | cons a es ih =>
      by_cases ha : a.extendable = true ∧ a.title = t
      · exact ⟨[], a, es, rfl, ha.2, ha.1, Or.inr (by simp)⟩
      · obtain ⟨e, he, hext, ht⟩ := h
        have hes : e ∈ es := by
          rcases List.mem_cons.1 he with rfl | hes
          · exact absurd ⟨hext, ht⟩ ha
          · exact hes
        obtain ⟨pre, f, post, rfl, hf, hfext, hfirst⟩ := ih ⟨e, hes, hext, ht⟩
        have hbefore : ∀ h ∈ pre, h.extendable = true → h.title ≠ f.title := by
          simpa using hfirst
        refine ⟨a :: pre, f, post, rfl, hf, hfext, Or.inr ?_⟩
        intro h hh hhext hht
        rcases List.mem_cons.1 hh with rfl | hh
        · exact ha ⟨hhext, hht.trans hf⟩
        · exact hbefore h hh hhext hht

/-- An extension is matched exactly when it is hosted: the first host of its title in the forest
takes it up. -/
theorem matched_iff_hosted :
    Matched docs (entry docs j) ↔ ∃ i, HostedBy everywhere docs j i := by
  constructor
  · rintro ⟨hj, hhost⟩
    obtain ⟨pre, e, post, hsplit, ht, hext, hfirst⟩ := exists_first_host hhost
    have hbefore : ∀ a ∈ pre, a.extendable = true → a.title ≠ e.title := by
      simpa using hfirst
    obtain ⟨i, before, after, hw, rfl⟩ := exists_walk_of_flatten_eq hsplit
    exact ⟨i, hj, before, e, after, hw, ht, hext, Or.inr hbefore⟩
  · rintro ⟨i, hji⟩
    obtain ⟨e, he, hext, ht⟩ := hji.exists_host
    exact ⟨hji.1, e, mem_flatten.2 ⟨i, he⟩, hext, ht⟩

/-- When every host has a lower rank than what it hosts, every entry is placed. -/
theorem placed_of_rank (rank : Fin docs.length → Nat)
    (h : ∀ j i, HostedBy everywhere docs j i → rank i < rank j) (j : Fin docs.length) :
    Placed everywhere docs j := by
  induction hn : rank j using Nat.strong_induction_on generalizing j with
  | _ n ih =>
      by_cases hj : Matched docs (entry docs j)
      · have hhosted : ∃ i, HostedBy everywhere docs j i := matched_iff_hosted.1 hj
        obtain ⟨i, hji⟩ := hhosted
        have hlt : rank i < n := hn ▸ h j i hji
        obtain ⟨k, hk, hik⟩ := ih (rank i) hlt i rfl
        exact ⟨k, hk, hik.head hji⟩
      · exact ⟨j, mem_remaining.2 hj, Relation.ReflTransGen.refl⟩

end Hosts

section Sample

/-- A public declaration with a kind and a title, and nothing else of its own. -/
def plain (kind : DeclKind) (title : Text) (children extensions : List Entity) : Entity :=
  .node
    { title := title
      access := .pub
      comment := none
      sourceFile := []
      kind := .decl kind
      attributes := .empty
      docDeclaration := none
      parsedDeclaration := none
      synthetic := false }
    children extensions

/-- A type, an extension of it with a type nested inside, an extension of that nested type, a
second type with the title of the first, and an extension of no type of the forest. -/
def nestedHosts : List Entity :=
  [plain .classType ['A'] [] [],
   plain .extensionOf ['A'] [plain .structType ['A', '.', 'B'] [] []] [],
   plain .extensionOf ['A', '.', 'B'] [] [],
   plain .classType ['A'] [] [],
   plain .extensionOf ['C'] [] []]

end Sample

end Merge

end ApiAtlas
