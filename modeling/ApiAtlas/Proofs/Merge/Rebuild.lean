import ApiAtlas.Merge.Internal
import ApiAtlas.Proofs.Forest
import Mathlib.Data.List.FinRange

/-!
# What rebuilding does

**Input.** A list of trees, a function that gives the extensions of a title, and the titles of the
hosts before the list.

**Definitions.** `intake` is what one entity takes up.  `Aligned` compares two depth-first
traversals place by place: the second has the bare forms of the first, and each entity has gained
its intake.

**Results.**
* `rebuildAll_cons_eq_some_iff`: one equation opens a list of trees, for every induction below.
* `rebuildAll_aligned`: a rebuilt forest is aligned with the forest it came from.
* `rebuildAll_mono`, `supply_fixed`: a larger supply changes no result, so a result of `supply` is
  made of entries that are rebuilt with that same supply.
* `exists_rebuildAll`: rebuilding has a result when every intake has one.
* `internal?_eq_mapM`: folding rebuilds the entries that remain, place by place.
-/

namespace ApiAtlas

namespace Merge

open Entity

section Traversal

variable {α β : Type}

/-- A list of partial results is complete exactly when each of them is there. -/
theorem mapM_eq_some_iff {f : α → Option β} {l : List α} {r : List β} :
    l.mapM f = some r ↔ l.map f = r.map some := by
  induction l generalizing r with
  | nil =>
      cases r with
      | nil => simp
      | cons b r => simp
  | cons a l ih =>
      rw [List.mapM_cons]
      cases hf : f a with
      | none =>
          cases r with
          | nil => simp
          | cons b r => simp [hf]
      | some b =>
          cases r with
          | nil =>
              cases hm : l.mapM f with
              | none => simp [hf]
              | some r' => simp [hf]
          | cons c r =>
              cases hm : l.mapM f with
              | none =>
                  have hne : l.map f ≠ r.map some := by
                    intro h
                    rw [ih.2 h] at hm
                    simp at hm
                  simp [hf, hne]
              | some r' =>
                  have hr := ih.1 hm
                  have hinj : r'.map some = r.map some ↔ r' = r :=
                    (List.map_injective_iff.2 (Option.some_injective β)).eq_iff
                  simp [hf, hr, hinj]

/-- What a complete list of partial results holds, read off entry by entry. -/
theorem eq_map_of_mapM [Inhabited β] {f : α → Option β} {l : List α} {r : List β}
    (h : l.mapM f = some r) : r = l.map fun a => (f a).getD default := by
  have hr := congrArg (List.map fun o => o.getD default) (mapM_eq_some_iff.1 h)
  simpa [Function.comp_def] using hr.symm

theorem exists_of_mapM {f : α → Option β} {l : List α} {r : List β}
    (h : l.mapM f = some r) {a : α} (ha : a ∈ l) : ∃ b ∈ r, f a = some b := by
  have hm : f a ∈ r.map some := by
    rw [← mapM_eq_some_iff.1 h]
    exact List.mem_map_of_mem ha
  obtain ⟨b, hb, hf⟩ := List.mem_map.1 hm
  exact ⟨b, hb, hf.symm⟩

theorem exists_of_mem_mapM {f : α → Option β} {l : List α} {r : List β}
    (h : l.mapM f = some r) {b : β} (hb : b ∈ r) : ∃ a ∈ l, f a = some b := by
  have hm : some b ∈ l.map f := by
    rw [mapM_eq_some_iff.1 h]
    exact List.mem_map_of_mem hb
  exact List.mem_map.1 hm

/-- A view of the results that can be read off the arguments. -/
theorem map_of_mapM {γ : Type} {f : α → Option β} {l : List α} {r : List β} {g : β → γ}
    {g' : α → γ} (h : l.mapM f = some r) (hg : ∀ a b, f a = some b → g b = g' a) :
    r.map g = l.map g' := by
  have hview : (l.map f).map (Option.map g) = l.map fun a => some (g' a) := by
    rw [List.map_map]
    apply List.map_congr_left
    intro a ha
    obtain ⟨b, -, hb⟩ := exists_of_mapM h ha
    rw [Function.comp_apply, hb, Option.map_some, hg a b hb]
  rw [mapM_eq_some_iff.1 h, List.map_map] at hview
  apply List.map_injective_iff.2 (Option.some_injective γ)
  rw [List.map_map, List.map_map]
  exact hview

/-- A list of partial results that are all there is complete. -/
theorem mapM_eq_some_of_forall [Inhabited β] {f : α → Option β} {l : List α}
    (h : ∀ a ∈ l, ∃ b, f a = some b) :
    l.mapM f = some (l.map fun a => (f a).getD default) := by
  rw [mapM_eq_some_iff, List.map_map]
  apply List.map_congr_left
  intro a ha
  obtain ⟨b, hb⟩ := h a ha
  simp [hb]

end Traversal

section Titles

/-- The titles of the hosts among entities. -/
def titlesOf (es : List Entity) : List Text :=
  (es.filter Entity.extendable).map Entity.title

@[simp] theorem titlesOf_nil : titlesOf [] = [] := rfl

@[simp] theorem titlesOf_append (as bs : List Entity) :
    titlesOf (as ++ bs) = titlesOf as ++ titlesOf bs := by
  simp [titlesOf]

theorem hostTitles_eq (docs : List Entity) : hostTitles docs = titlesOf (flatten docs) := rfl

theorem mem_titlesOf {t : Text} {es : List Entity} :
    t ∈ titlesOf es ↔ ∃ h ∈ es, h.extendable = true ∧ h.title = t := by
  simp [titlesOf, and_assoc]

theorem titlesOf_cons_of_host {e : Entity} (h : e.profile.kind.extendable = true)
    (es : List Entity) : titlesOf (e :: es) = e.profile.title :: titlesOf es := by
  have he : e.extendable = true := h
  rw [titlesOf, List.filter_cons_of_pos he]
  rfl

theorem titlesOf_cons_of_not_host {e : Entity} (h : e.profile.kind.extendable = false)
    (es : List Entity) : titlesOf (e :: es) = titlesOf es := by
  have he : ¬ e.extendable = true := by
    rw [Entity.extendable, Entity.kind, h]
    simp
  rw [titlesOf, List.filter_cons_of_neg he]
  rfl

/-- The titles up to and including an entity. -/
theorem including_eq (before : List Text) (e : Entity) :
    including before e.profile = before ++ titlesOf [e] := by
  cases h : e.profile.kind.extendable with
  | true => rw [including, if_pos h, titlesOf_cons_of_host h, titlesOf_nil]
  | false =>
      rw [including, if_neg (by simp [h]), titlesOf_cons_of_not_host h, titlesOf_nil,
        List.append_nil]

theorem including_node (before : List Text) (p : Profile) (cs es : List Entity) :
    including before p = before ++ titlesOf [.node p cs es] :=
  including_eq before (.node p cs es)

/-- The titles after a whole tree: its own one first, then those of what is nested in it. -/
theorem append_hostTitles_node (before : List Text) (p : Profile) (cs es : List Entity) :
    before ++ hostTitles [.node p cs es] = including before p ++ titlesOf (flatten cs) := by
  rw [including_node before p cs es, List.append_assoc, ← titlesOf_append, hostTitles_eq]
  simp [walk_node]

end Titles

variable {everywhere : Bool} {give give' : Text → Option (List Entity)} {before : List Text}

section Intake

/-- What an entity takes up: the extensions of its title, or none when it is no host or a host of
its title stands before it. -/
def intake (everywhere : Bool) (give : Text → Option (List Entity)) (before : List Text)
    (p : Profile) : Option (List Entity) :=
  if receives everywhere before p then give p.title else some []

theorem intake_of_receives {p : Profile} (h : receives everywhere before p = true) :
    intake everywhere give before p = give p.title := by
  rw [intake, if_pos h]

theorem intake_of_not_receives {p : Profile} (h : receives everywhere before p = false) :
    intake everywhere give before p = some [] := by
  rw [intake, if_neg (by simp [h])]

theorem rebuild_node_eq_some_iff {p : Profile} {cs es : List Entity} {d : Entity} :
    rebuild everywhere give before (.node p cs es) = some d ↔
      ∃ cs' more,
        rebuildAll everywhere give (including before p) cs = some cs' ∧
        intake everywhere give before p = some more ∧
        d = .node p cs' (es ++ more) := by
  rw [rebuild]
  cases hcs : rebuildAll everywhere give (including before p) cs with
  | none => simp
  | some cs' =>
      by_cases hr : receives everywhere before p = true
      · rw [intake_of_receives hr]
        simp only [hr, if_true, Option.map_eq_some_iff, Option.some.injEq]
        constructor
        · rintro ⟨more, hmore, rfl⟩
          exact ⟨cs', more, rfl, hmore, rfl⟩
        · rintro ⟨_, more, rfl, hmore, rfl⟩
          exact ⟨more, hmore, rfl⟩
      · have hr' : receives everywhere before p = false := by simpa using hr
        rw [intake_of_not_receives hr']
        simp only [hr', Bool.false_eq_true, if_false, Option.some.injEq]
        constructor
        · rintro rfl
          exact ⟨cs', [], rfl, rfl, by simp⟩
        · rintro ⟨_, _, rfl, rfl, rfl⟩
          simp

@[simp] theorem rebuildAll_nil :
    rebuildAll everywhere give before [] = some [] := by
  rw [rebuildAll]

theorem rebuildAll_cons {d : Entity} {rest ds : List Entity} :
    rebuildAll everywhere give before (d :: rest) = some ds ↔
      ∃ d' rest',
        rebuild everywhere give before d = some d' ∧
        rebuildAll everywhere give (before ++ hostTitles [d]) rest = some rest' ∧
        ds = d' :: rest' := by
  rw [rebuildAll]
  cases hd : rebuild everywhere give before d with
  | none => simp
  | some d' =>
      cases hrest : rebuildAll everywhere give (before ++ hostTitles [d]) rest with
      | none => simp
      | some rest' => simp [eq_comm]

/-- Rebuilding a list of trees: what is nested in the first one, its intake, and the rest. -/
theorem rebuildAll_cons_eq_some_iff {p : Profile} {cs es rest ds : List Entity} :
    rebuildAll everywhere give before (.node p cs es :: rest) = some ds ↔
      ∃ cs' more rest',
        rebuildAll everywhere give (including before p) cs = some cs' ∧
        intake everywhere give before p = some more ∧
        rebuildAll everywhere give (including before p ++ titlesOf (flatten cs)) rest =
          some rest' ∧
        ds = .node p cs' (es ++ more) :: rest' := by
  rw [rebuildAll_cons, append_hostTitles_node]
  constructor
  · rintro ⟨d', rest', hd, hrest, rfl⟩
    obtain ⟨cs', more, hcs, hmore, rfl⟩ := rebuild_node_eq_some_iff.1 hd
    exact ⟨cs', more, rest', hcs, hmore, hrest, rfl⟩
  · rintro ⟨cs', more, rest', hcs, hmore, hrest, rfl⟩
    exact ⟨_, rest', rebuild_node_eq_some_iff.2 ⟨cs', more, hcs, hmore, rfl⟩, hrest, rfl⟩

/-- One tree as a list. -/
theorem rebuildAll_singleton {d d' : Entity} :
    rebuildAll everywhere give before [d] = some [d'] ↔
      rebuild everywhere give before d = some d' := by
  simp [rebuildAll_cons]

/-- What becomes of one tree when a list is rebuilt. -/
theorem exists_rebuild_of_rebuildAll {give : Text → Option (List Entity)} {before : List Text}
    {ds ds' : List Entity} {d : Entity} {k : Nat}
    (h : rebuildAll everywhere give before ds = some ds') (hd : ds[k]? = some d) :
    ∃ d', ds'[k]? = some d' ∧
      rebuild everywhere give (before ++ hostTitles (ds.take k)) d = some d' := by
  induction ds generalizing before ds' k with
  | nil =>
      simp at hd
  | cons a ds ih =>
      obtain ⟨a', rest', ha, hrest, rfl⟩ := rebuildAll_cons.1 h
      cases k with
      | zero =>
          obtain rfl : a = d := by simpa using hd
          exact ⟨a', rfl, by simpa [hostTitles] using ha⟩
      | succ k =>
          obtain ⟨d', hd', hk⟩ := ih hrest (by simpa using hd)
          refine ⟨d', by simpa using hd', ?_⟩
          simpa [hostTitles] using hk

end Intake

section Shape

/-- Rebuilding keeps the bare form of every tree. -/
theorem rebuildAll_bareAll {docs docs' : List Entity}
    (h : rebuildAll everywhere give before docs = some docs') :
    bareAll docs' = bareAll docs := by
  induction docs using forest_induction generalizing before docs' with
  | nil =>
      rw [rebuildAll_nil, Option.some.injEq] at h
      rw [← h]
  | cons p cs es rest ihc _ ihr =>
      obtain ⟨cs', more, rest', hcs, -, hrest, rfl⟩ := rebuildAll_cons_eq_some_iff.1 h
      simp only [bareAll_cons, bare_node, ihc hcs, ihr hrest]

theorem rebuild_bare {d d' : Entity} (h : rebuild everywhere give before d = some d') :
    d'.bare = d.bare := by
  have hb := rebuildAll_bareAll (rebuildAll_singleton.2 h)
  simpa using hb

/-- An entity without nested entities that is no host is left alone. -/
theorem rebuild_eq_self {d d' : Entity} (hchildren : d.children = [])
    (hext : d.extendable = false) (h : rebuild everywhere give before d = some d') : d' = d := by
  cases d with
  | node p cs es =>
      obtain ⟨cs', more, hcs, hmore, rfl⟩ := rebuild_node_eq_some_iff.1 h
      have hnil : cs = [] := hchildren
      have hkind : p.kind.extendable = false := hext
      have hreceives : receives everywhere before p = false := by
        rw [receives, hkind, Bool.false_and]
      rw [intake_of_not_receives hreceives, Option.some.injEq] at hmore
      rw [hnil, rebuildAll_nil, Option.some.injEq] at hcs
      rw [← hmore, ← hcs, hnil, List.append_nil]

/-- Two traversals, place by place: the second has the bare forms of the first, and each entity
has gained its intake. -/
inductive Aligned (everywhere : Bool) (give : Text → Option (List Entity)) :
    List Text → List Entity → List Entity → Prop
  | nil {before : List Text} : Aligned everywhere give before [] []
  | cons {before : List Text} {e e' : Entity} {more es es' : List Entity} :
      e'.bare = e.bare →
      intake everywhere give before e.profile = some more →
      e'.extensions = e.extensions ++ more →
      Aligned everywhere give (including before e.profile) es es' →
      Aligned everywhere give before (e :: es) (e' :: es')

/-- Alignment goes list by list; the second part starts after the hosts of the first. -/
theorem Aligned.append {as as' bs bs' : List Entity}
    (ha : Aligned everywhere give before as as')
    (hb : Aligned everywhere give (before ++ titlesOf as) bs bs') :
    Aligned everywhere give before (as ++ bs) (as' ++ bs') := by
  induction ha with
  | nil =>
      simpa [titlesOf] using hb
  | @cons before e e' more es es' hbare hmore hext _ ih =>
      refine Aligned.cons hbare hmore hext (ih ?_)
      rwa [including_eq, List.append_assoc, ← titlesOf_append]

/-- A rebuilt forest is aligned with the forest it came from. -/
theorem rebuildAll_aligned {docs docs' : List Entity}
    (h : rebuildAll everywhere give before docs = some docs') :
    Aligned everywhere give before (flatten docs) (flatten docs') := by
  induction docs using forest_induction generalizing before docs' with
  | nil =>
      rw [rebuildAll_nil, Option.some.injEq] at h
      rw [← h, flatten_nil]
      exact Aligned.nil
  | cons p cs es rest ihc _ ihr =>
      obtain ⟨cs', more, rest', hcs, hmore, hrest, rfl⟩ := rebuildAll_cons_eq_some_iff.1 h
      have hbare : bare (.node p cs' (es ++ more)) = bare (.node p cs es) := by
        rw [bare_node, bare_node, rebuildAll_bareAll hcs]
      simp only [flatten_cons, walk_node, List.cons_append]
      exact Aligned.cons hbare hmore rfl ((ihc hcs).append (ihr hrest))

/-- What alignment says at one place of the first traversal. -/
theorem Aligned.at_place {es es' pre post : List Entity} {e : Entity}
    (h : Aligned everywhere give before es es') (hes : es = pre ++ e :: post) :
    ∃ e' more,
      es'[pre.length]? = some e' ∧
      e'.bare = e.bare ∧
      intake everywhere give (before ++ titlesOf pre) e.profile = some more ∧
      e'.extensions = e.extensions ++ more := by
  induction h generalizing pre with
  | nil =>
      simp at hes
  | @cons before a a' more as as' hbare hmore hext _ ih =>
      cases pre with
      | nil =>
          obtain ⟨rfl, rfl⟩ := List.cons.inj hes
          exact ⟨a', more, rfl, hbare, by simpa [titlesOf] using hmore, hext⟩
      | cons b pre =>
          obtain ⟨rfl, has⟩ := List.cons.inj hes
          obtain ⟨e', more', hat, hb, hm, he⟩ := ih has
          refine ⟨e', more', by simpa using hat, hb, ?_, he⟩
          rwa [including_eq, List.append_assoc, ← titlesOf_append] at hm

/-- What alignment says of an entity of the second traversal. -/
theorem Aligned.source {es es' : List Entity} {e' : Entity}
    (h : Aligned everywhere give before es es') (he : e' ∈ es') :
    ∃ pre e post more,
      es = pre ++ e :: post ∧
      e'.bare = e.bare ∧
      intake everywhere give (before ++ titlesOf pre) e.profile = some more ∧
      e'.extensions = e.extensions ++ more := by
  induction h with
  | nil =>
      simp at he
  | @cons before a a' more as as' hbare hmore hext _ ih =>
      rcases List.mem_cons.1 he with rfl | he
      · exact ⟨[], a, as, more, rfl, hbare, by simpa [titlesOf] using hmore, hext⟩
      · obtain ⟨pre, e, post, more', rfl, hb, hm, hx⟩ := ih he
        refine ⟨a :: pre, e, post, more', rfl, hb, ?_, hx⟩
        rwa [including_eq, List.append_assoc, ← titlesOf_append] at hm

end Shape

section Supply

/-- Whether `give'` gives all that `give` gives. -/
def Extends (give' give : Text → Option (List Entity)) : Prop :=
  ∀ t xs, give t = some xs → give' t = some xs

theorem intake_mono (hg : Extends give' give) {p : Profile} {more : List Entity}
    (h : intake everywhere give before p = some more) :
    intake everywhere give' before p = some more := by
  cases hr : receives everywhere before p with
  | true =>
      rw [intake_of_receives hr] at h ⊢
      exact hg p.title more h
  | false =>
      rw [intake_of_not_receives hr] at h ⊢
      exact h

/-- A larger supply changes no result. -/
theorem rebuildAll_mono (hg : Extends give' give) {docs docs' : List Entity}
    (h : rebuildAll everywhere give before docs = some docs') :
    rebuildAll everywhere give' before docs = some docs' := by
  induction docs using forest_induction generalizing before docs' with
  | nil =>
      rw [rebuildAll_nil] at h ⊢
      exact h
  | cons p cs es rest ihc _ ihr =>
      obtain ⟨cs', more, rest', hcs, hmore, hrest, rfl⟩ := rebuildAll_cons_eq_some_iff.1 h
      exact rebuildAll_cons_eq_some_iff.2
        ⟨cs', more, rest', ihc hcs, intake_mono hg hmore, ihr hrest, rfl⟩

/-- Rebuilding has a result when every intake along the traversal has one. -/
theorem exists_rebuildAll {docs : List Entity}
    (h : ∀ pre e post, flatten docs = pre ++ e :: post →
      ∃ more, intake everywhere give (before ++ titlesOf pre) e.profile = some more) :
    ∃ docs', rebuildAll everywhere give before docs = some docs' := by
  induction docs using forest_induction generalizing before with
  | nil =>
      exact ⟨[], rebuildAll_nil⟩
  | cons p cs es rest ihc _ ihr =>
      have hflat : flatten (.node p cs es :: rest) =
          .node p cs es :: (flatten cs ++ flatten rest) := by
        rw [flatten_cons, walk_node, List.cons_append]
      have hinc := including_node before p cs es
      obtain ⟨more, hmore⟩ := h [] (.node p cs es) (flatten cs ++ flatten rest) hflat
      obtain ⟨cs', hcs⟩ := @ihc (including before p) (by
        intro pre e post hcs
        obtain ⟨m, hm⟩ := h (.node p cs es :: pre) e (post ++ flatten rest) (by
          rw [hflat, hcs]
          simp)
        rw [hinc, List.append_assoc, ← titlesOf_append]
        exact ⟨m, hm⟩)
      obtain ⟨rest', hrest⟩ := @ihr (including before p ++ titlesOf (flatten cs)) (by
        intro pre e post hrest
        obtain ⟨m, hm⟩ := h (.node p cs es :: (flatten cs ++ pre)) e post (by
          rw [hflat, hrest]
          simp)
        rw [hinc, List.append_assoc, List.append_assoc, ← titlesOf_append, ← titlesOf_append]
        exact ⟨m, hm⟩)
      refine ⟨_, rebuildAll_cons_eq_some_iff.2 ⟨cs', more, rest', hcs, ?_, hrest, rfl⟩⟩
      simpa [titlesOf] using hmore

end Supply

section Places

/-- The entry at a place of the top level. -/
def entry (docs : List Entity) (i : Fin docs.length) : Entity :=
  docs.get i

theorem entry_mem (docs : List Entity) (i : Fin docs.length) : entry docs i ∈ docs :=
  List.get_mem docs i

theorem exists_entry {docs : List Entity} {d : Entity} (h : d ∈ docs) :
    ∃ i, entry docs i = d :=
  List.get_of_mem h

@[simp] theorem entry_zero (d : Entity) (ds : List Entity) :
    entry (d :: ds) (0 : Fin (ds.length + 1)) = d := rfl

@[simp] theorem entry_succ (d : Entity) (ds : List Entity) (i : Fin ds.length) :
    entry (d :: ds) i.succ = entry ds i := rfl

theorem map_entry_finRange (docs : List Entity) :
    (List.finRange docs.length).map (entry docs) = docs :=
  List.map_get_finRange docs

/-- The places of the top level whose entries satisfy a condition, in order. -/
def placesOf (q : Entity → Bool) (docs : List Entity) : List (Fin docs.length) :=
  (List.finRange docs.length).filter fun i => q (entry docs i)

@[simp] theorem mem_placesOf {q : Entity → Bool} {docs : List Entity} {i : Fin docs.length} :
    i ∈ placesOf q docs ↔ q (entry docs i) = true := by
  simp [placesOf]

theorem map_placesOf {γ : Type} (q : Entity → Bool) (g : Entity → γ) (docs : List Entity) :
    ((placesOf q docs).map fun i => g (entry docs i)) = (docs.filter q).map g := by
  conv_rhs => rw [← map_entry_finRange docs]
  rw [List.filter_map, List.map_map]
  rfl

/-- Whether a tree is an extension of a title depends on its own fields only. -/
theorem isExtensionOf_congr {e e' : Entity} (h : e'.profile = e.profile) (t : Text) :
    isExtensionOf t e' = isExtensionOf t e := by
  simp only [isExtensionOf, Entity.isSourceExtension, Entity.title, h]

/-- The entry at a place, rebuilt with a supply; the hosts before it are those of the trees before
it. -/
def entryWith (everywhere : Bool) (give : Text → Option (List Entity)) (docs : List Entity)
    (i : Fin docs.length) : Option Entity :=
  rebuild everywhere give (hostTitles (docs.take i)) (entry docs i)

/-- The entry at a place, rebuilt with the full supply of the forest. -/
def rebuiltAt (everywhere : Bool) (docs : List Entity) : Fin docs.length → Option Entity :=
  entryWith everywhere (supply everywhere docs docs.length) docs

theorem placed_eq_map_finRange (before : List Text) (docs : List Entity) :
    placed before docs =
      (List.finRange docs.length).map fun i : Fin docs.length =>
        (before ++ hostTitles (docs.take i), entry docs i) := by
  induction docs generalizing before with
  | nil =>
      rfl
  | cons d ds ih =>
      rw [placed, ih]
      simp only [List.length_cons, List.finRange_succ, List.map_cons, List.map_map]
      refine congrArg₂ List.cons ?_ ?_
      · simp [hostTitles]
      · apply List.map_congr_left
        intro i _
        simp [hostTitles]

/-- Rebuilding selected trees, each with the hosts before it, goes place by place. -/
theorem placed_filter_mapM (q : Entity → Bool) (docs : List Entity) :
    (((placed [] docs).filter fun x => q x.2).mapM fun x =>
        rebuild everywhere give x.1 x.2) =
      (placesOf q docs).mapM (entryWith everywhere give docs) := by
  rw [placed_eq_map_finRange, List.filter_map, List.mapM_map]
  rfl

/-- Rebuilding a whole list goes place by place as well. -/
theorem rebuildAll_eq_mapM (docs : List Entity) :
    rebuildAll everywhere give [] docs =
      (List.finRange docs.length).mapM (entryWith everywhere give docs) := by
  have hplaced : ∀ before, rebuildAll everywhere give before docs =
      (placed before docs).mapM fun x => rebuild everywhere give x.1 x.2 := by
    induction docs with
    | nil =>
        intro before
        rw [rebuildAll_nil]
        rfl
    | cons d ds ih =>
        intro before
        rw [rebuildAll, placed, List.mapM_cons, ih]
        cases rebuild everywhere give before d with
        | none => rfl
        | some d' =>
            cases (placed (before ++ hostTitles [d]) ds).mapM
                fun x => rebuild everywhere give x.1 x.2 with
            | none => rfl
            | some ds' => rfl
  rw [hplaced, placed_eq_map_finRange, List.mapM_map]
  rfl

theorem supply_succ (everywhere : Bool) (docs : List Entity) (depth : Nat) (t : Text) :
    supply everywhere docs (depth + 1) t =
      (placesOf (isExtensionOf t) docs).mapM
        (entryWith everywhere (supply everywhere docs depth) docs) := by
  rw [← placed_filter_mapM, supply]

/-- Folding rebuilds the entries that remain, place by place. -/
theorem internal?_eq_mapM (everywhere : Bool) (docs : List Entity) :
    internal? everywhere docs =
      (placesOf (fun d => !isHosted docs d) docs).mapM (rebuiltAt everywhere docs) := by
  rw [rebuiltAt, ← placed_filter_mapM, internal?]

/-- Folding keeps the fields of the entries that remain. -/
theorem map_profile_internal {docs folded : List Entity}
    (h : internal? everywhere docs = some folded) :
    folded.map Entity.profile =
      (docs.filter fun d => !isHosted docs d).map Entity.profile := by
  rw [internal?_eq_mapM] at h
  rw [← map_placesOf]
  apply map_of_mapM h
  intro i d hd
  exact profile_eq_of_bare_eq (rebuild_bare hd)

/-- Folding makes no containers. -/
theorem synthetic_of_mem_internal {docs folded : List Entity}
    (hplain : ∀ d ∈ docs, d.profile.synthetic = false)
    (h : internal? everywhere docs = some folded) : ∀ d ∈ folded, d.profile.synthetic = false := by
  intro d hd
  have hp : d.profile ∈ folded.map Entity.profile := List.mem_map_of_mem hd
  rw [map_profile_internal h] at hp
  obtain ⟨e, he, hprofile⟩ := List.mem_map.1 hp
  rw [← hprofile]
  exact hplain e (List.mem_filter.1 he).1

theorem entryWith_mono (hg : Extends give' give) {docs : List Entity} {i : Fin docs.length}
    {d : Entity} (h : entryWith everywhere give docs i = some d) :
    entryWith everywhere give' docs i = some d :=
  rebuildAll_singleton.1 (rebuildAll_mono hg (rebuildAll_singleton.2 h))

/-- More depth changes no result of `supply`. -/
theorem supply_mono (everywhere : Bool) (docs : List Entity) (depth : Nat) :
    Extends (supply everywhere docs (depth + 1)) (supply everywhere docs depth) := by
  induction depth with
  | zero =>
      intro t xs h
      rw [supply] at h
      split at h
      · simp at h
      · rename_i hnone
        have hplaces : placesOf (isExtensionOf t) docs = [] := by
          rw [placesOf, List.filter_eq_nil_iff]
          intro i _ hi
          exact hnone (List.any_eq_true.2 ⟨entry docs i, entry_mem docs i, hi⟩)
        rw [supply_succ, hplaces]
        exact h
  | succ depth ih =>
      intro t xs h
      rw [supply_succ] at h ⊢
      have hsome := mapM_eq_some_iff.1 h
      rw [mapM_eq_some_iff, ← hsome]
      apply List.map_congr_left
      intro i hi
      obtain ⟨d, -, hd⟩ := exists_of_mapM h hi
      rw [hd]
      exact entryWith_mono ih hd

/-- The extensions of a title that `supply` gives are the entries of that title, each rebuilt with
the same supply. -/
theorem supply_fixed {docs : List Entity} {t : Text} {xs : List Entity}
    (h : supply everywhere docs docs.length t = some xs) :
    (placesOf (isExtensionOf t) docs).mapM (rebuiltAt everywhere docs) = some xs := by
  rw [rebuiltAt, ← supply_succ]
  exact supply_mono everywhere docs docs.length t xs h

end Places

end Merge

end ApiAtlas
