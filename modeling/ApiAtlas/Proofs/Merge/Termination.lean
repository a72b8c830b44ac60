import ApiAtlas.Proofs.Merge.Completion
import Mathlib.Order.WellFounded

/-!
# Why folding comes to an end

**Input.** The top level of a forest.

**Definitions.** `Calls` is the recursion of folding without a bound on its depth: rebuilding an
entity calls for everything nested in it and for every extension that it takes up.  That the
recursion ends at an entry is that the entry is accessible by this relation.  `NoCircleBelow` says
that an entry leads to no circle of hosts.  A `Descent` follows a path of a rebuilt entry, through
nested entities and newly attached extensions, beside the entities where these come from; its trail
lists the places of the top level that the path has come through.

**Results.**
* `acc_callAt_of_rebuiltAt`: where the bounded recursion has a result, the recursion ends.
* `acc_callAt_iff`: the recursion ends at an entry exactly when the entry leads to no circle.
* `Stands.exists_gained`: what an entity of a rebuilt entry has gained.
* `Stands.nested`, `Stands.attached`: what one step of a descent preserves.
* `Descent.isChain`: along a descent each extension is hosted by the one before it.
* `internal?_terminates`: circles that no remaining entry leads to do not prevent a result, and no
  path of the result comes through one extension twice.
-/

namespace ApiAtlas

namespace Merge

open Entity

section Defs

/-- What the recursion is called on for the entry at a place: the titles of the hosts before the
entry, and the entry. -/
def callAt (docs : List Entity) (i : Fin docs.length) : List Text × Entity :=
  (hostTitles (docs.take i), entry docs i)

/-- The calls that rebuilding an entity makes: one for each entity nested in it, and one for each
extension that it takes up. -/
inductive Calls (everywhere : Bool) (docs : List Entity) :
    List Text × Entity → List Text × Entity → Prop
  | nested {before : List Text} {p : Profile} {cs es : List Entity} {c : Entity} {k : Nat} :
      cs[k]? = some c →
      Calls everywhere docs (including before p ++ hostTitles (cs.take k), c)
        (before, .node p cs es)
  | attached {before : List Text} {p : Profile} {cs es : List Entity} {j : Fin docs.length} :
      receives everywhere before p = true →
      isExtensionOf p.title (entry docs j) = true →
      Calls everywhere docs (callAt docs j) (before, .node p cs es)

/-- Whether the entry at a place leads to no circle of hosts. -/
def NoCircleBelow (everywhere : Bool) (docs : List Entity) (i : Fin docs.length) : Prop :=
  ∀ j, Relation.ReflTransGen (HostedBy everywhere docs) j i →
    ¬ Relation.TransGen (HostedBy everywhere docs) j j

/-- A way down in the tree `d` that the entry at place `i` has become.  `Descent docs i d trail e e'`
leads to the entity `e'`, which comes from `e`; the trail lists the places passed, the last one
first.  New extensions of an entity come after its old ones, and come from the extensions of its
title at the top level, in their order. -/
inductive Descent (docs : List Entity) (i : Fin docs.length) (d : Entity) :
    List (Fin docs.length) → Entity → Entity → Prop
  | start : Descent docs i d [i] (entry docs i) d
  | nested {trail : List (Fin docs.length)} {e e' c c' : Entity} {k : Nat} :
      Descent docs i d trail e e' →
      e.children[k]? = some c →
      e'.children[k]? = some c' →
      Descent docs i d trail c c'
  | attached {trail : List (Fin docs.length)} {e e' x : Entity} {k : Nat} {j : Fin docs.length} :
      Descent docs i d trail e e' →
      (placesOf (isExtensionOf e.title) docs)[k]? = some j →
      e'.extensions[e.extensions.length + k]? = some x →
      Descent docs i d (j :: trail) (entry docs j) x

/-- Whether an entity is another one, apart from new extensions at every depth, and has itself
gained no extension or as many as the top level has of its title.  So a descent goes on to every
entity nested in it and to every extension newly attached to it. -/
def Traced (docs : List Entity) (e e' : Entity) : Prop :=
  e'.bare = e.bare ∧
    ∃ more, e'.extensions = e.extensions ++ more ∧
      (more = [] ∨ more.length = (placesOf (isExtensionOf e.title) docs).length)

end Defs

variable {everywhere : Bool} {docs : List Entity}

section Ending

/-- Where rebuilding has a result, the recursion ends, provided that it ends at the extensions of
each title that is supplied. -/
theorem acc_of_rebuild {give : Text → Option (List Entity)}
    (hgive : ∀ t xs, give t = some xs → ∀ j, isExtensionOf t (entry docs j) = true →
      Acc (Calls everywhere docs) (callAt docs j))
    {before : List Text} {d d' : Entity} (h : rebuild everywhere give before d = some d') :
    Acc (Calls everywhere docs) (before, d) := by
  -- The induction follows what is nested in the tree; what it takes up comes from outside.
  induction d using nested_induction generalizing before d' with
  | node p cs es ih =>
      obtain ⟨cs', more, hcs, hmore, -⟩ := rebuild_node_eq_some_iff.1 h
      constructor
      intro call hcall
      cases hcall with
      | nested hc =>
          obtain ⟨c', -, hc'⟩ := exists_rebuild_of_rebuildAll hcs hc
          exact ih _ (List.mem_of_getElem? hc) hc'
      | attached hreceives hj =>
          rw [intake_of_receives hreceives] at hmore
          exact hgive p.title more hmore _ hj

/-- Where the supply of some depth gives the extensions of a title, the recursion ends at these. -/
theorem acc_of_supply (depth : Nat) {t : Text} {xs : List Entity}
    (h : supply everywhere docs depth t = some xs) {j : Fin docs.length}
    (hj : isExtensionOf t (entry docs j) = true) :
    Acc (Calls everywhere docs) (callAt docs j) := by
  induction depth generalizing t xs j with
  | zero =>
      have hany : docs.any (isExtensionOf t) = true :=
        List.any_eq_true.2 ⟨entry docs j, entry_mem docs j, hj⟩
      rw [supply, if_pos hany] at h
      simp at h
  | succ depth ih =>
      rw [supply_succ] at h
      obtain ⟨d, -, hd⟩ := exists_of_mapM h (mem_placesOf.2 hj)
      exact acc_of_rebuild (fun _ _ hxs _ hj => ih hxs hj) hd

/-- Where the bounded recursion has a result, the recursion ends. -/
theorem acc_callAt_of_rebuiltAt {i : Fin docs.length} {d : Entity}
    (h : rebuiltAt everywhere docs i = some d) : Acc (Calls everywhere docs) (callAt docs i) :=
  acc_of_rebuild (fun _ _ hxs _ hj => acc_of_supply docs.length hxs hj) h

end Ending

section Circles

/-- The recursion comes from a tree to every entity of its traversal. -/
theorem reflTransGen_calls_of_walk {before : List Text} {d e : Entity} {pre post : List Entity}
    (h : d.walk = pre ++ e :: post) :
    Relation.ReflTransGen (Calls everywhere docs) (before ++ titlesOf pre, e) (before, d) := by
  induction d using nested_induction generalizing before pre post with
  | node p cs es ih =>
      rw [walk_node] at h
      cases pre with
      | nil =>
          obtain ⟨rfl, -⟩ := List.cons.inj h
          rw [titlesOf_nil, List.append_nil]
      | cons a pre =>
          rw [List.cons_append, List.cons.injEq] at h
          obtain ⟨rfl, h⟩ := h
          obtain ⟨k, inner, after, hw, rfl⟩ := exists_walk_of_flatten_eq h
          have hbelow := @ih (entry cs k) (entry_mem cs k)
            (including before p ++ hostTitles (cs.take k)) inner after hw
          have hcall : Calls everywhere docs
              (including before p ++ hostTitles (cs.take k), entry cs k) (before, .node p cs es) :=
            Calls.nested (List.getElem?_eq_getElem k.isLt)
          have htitles : before ++ titlesOf (.node p cs es :: (flatten (cs.take k) ++ inner)) =
              including before p ++ hostTitles (cs.take k) ++ titlesOf inner := by
            rw [including_node before p cs es, hostTitles_eq, List.append_assoc, List.append_assoc,
              ← titlesOf_append, ← titlesOf_append, List.singleton_append]
          rw [htitles]
          exact hbelow.tail hcall

/-- The recursion comes from an entry to every extension that the entry hosts. -/
theorem HostedBy.transGen_calls {i j : Fin docs.length} (h : HostedBy everywhere docs j i) :
    Relation.TransGen (Calls everywhere docs) (callAt docs j) (callAt docs i) := by
  obtain ⟨hj, pre, e, post, hw, ht, hup⟩ := h
  have hcall : Calls everywhere docs (callAt docs j)
      (hostTitles (docs.take i) ++ titlesOf pre, e) := by
    cases e with
    | node p cs es =>
        apply Calls.attached
        · rw [hostTitles_eq, ← titlesOf_append]
          exact receives_iff_takesUp.2 hup
        · exact isExtensionOf_iff.2 ⟨hj, ht.symm⟩
  exact Relation.TransGen.head' hcall (reflTransGen_calls_of_walk hw)

/-- The recursion ends at an entry exactly when the entry leads to no circle of hosts. -/
theorem acc_callAt_iff {i : Fin docs.length} :
    Acc (Calls everywhere docs) (callAt docs i) ↔ NoCircleBelow everywhere docs i := by
  constructor
  · intro hacc j hji hjj
    have hcalls : ∀ a b, HostedBy everywhere docs a b →
        Relation.TransGen (Calls everywhere docs) (callAt docs a) (callAt docs b) :=
      fun a b hab => hab.transGen_calls
    have hj : Acc (Relation.TransGen (Calls everywhere docs)) (callAt docs j) := by
      rcases Relation.reflTransGen_iff_eq_or_transGen.1 hji with rfl | hji
      · exact hacc.transGen
      · exact hacc.transGen.inv (Relation.TransGen.lift' (callAt docs) hcalls _ _ hji)
    have hself := Relation.TransGen.lift' (callAt docs) hcalls _ _ hjj
    exact not_acc_iff_exists_descending_chain.2 ⟨fun _ => callAt docs j, rfl, fun _ => hself⟩ hj
  · intro h
    obtain ⟨d, hd⟩ := exists_rebuiltAt h
    exact acc_callAt_of_rebuiltAt hd

/-- Where folding has a result, no remaining entry leads to a circle of hosts. -/
theorem noCircleBelow_of_internal? {result : List Entity}
    (h : internal? everywhere docs = some result) {i : Fin docs.length} (hi : i ∈ remaining docs) :
    NoCircleBelow everywhere docs i := by
  rw [internal?_eq_mapM_remaining] at h
  obtain ⟨d, -, hd⟩ := exists_of_mapM h hi
  exact acc_callAt_iff.1 (acc_callAt_of_rebuiltAt hd)

end Circles

section Trails

/-- Whether an entity stands in the tree at a place and another one is what it has become. -/
def Stands (everywhere : Bool) (docs : List Entity) (i : Fin docs.length) (e e' : Entity) : Prop :=
  ∃ pre post, (entry docs i).walk = pre ++ (e.walk ++ post) ∧
    rebuild everywhere (supply everywhere docs docs.length)
      (titlesOf (flatten (docs.take i) ++ pre)) e = some e'

theorem stands_of_rebuiltAt {i : Fin docs.length} {d : Entity}
    (h : rebuiltAt everywhere docs i = some d) : Stands everywhere docs i (entry docs i) d := by
  refine ⟨[], [], by simp, ?_⟩
  rw [List.append_nil]
  exact h

theorem Stands.nested {i : Fin docs.length} {e e' c c' : Entity} {k : Nat}
    (h : Stands everywhere docs i e e') (hc : e.children[k]? = some c)
    (hc' : e'.children[k]? = some c') : Stands everywhere docs i c c' := by
  obtain ⟨pre, post, hw, he⟩ := h
  cases e with
  | node p cs es =>
      obtain ⟨cs', more, hcs, -, rfl⟩ := rebuild_node_eq_some_iff.1 he
      rw [children_node] at hc hc'
      obtain ⟨d, hd, hchild⟩ := exists_rebuild_of_rebuildAll hcs hc
      obtain rfl : c' = d := Option.some.inj (hc'.symm.trans hd)
      refine ⟨pre ++ .node p cs es :: flatten (cs.take k), flatten (cs.drop (k + 1)) ++ post,
        ?_, ?_⟩
      · rw [hw, walk_node, flatten_eq_append_walk hc]
        simp
      · rw [including_node _ p cs es, hostTitles_eq, ← titlesOf_append, ← titlesOf_append] at hchild
        simpa using hchild

/-- What an entity has gained: nothing, or the extensions of its title, which are all hosted by the
entry where it stands, and rebuilt. -/
theorem Stands.exists_gained {i : Fin docs.length} {e e' : Entity}
    (h : Stands everywhere docs i e e') :
    ∃ more, e'.extensions = e.extensions ++ more ∧
      (more = [] ∨
        (∀ j ∈ placesOf (isExtensionOf e.title) docs, HostedBy everywhere docs j i) ∧
          (placesOf (isExtensionOf e.title) docs).map (rebuiltAt everywhere docs) =
            more.map some) := by
  obtain ⟨pre, post, hw, he⟩ := h
  cases e with
  | node p cs es =>
      obtain ⟨cs', more, -, hmore, rfl⟩ := rebuild_node_eq_some_iff.1 he
      refine ⟨more, rfl, ?_⟩
      cases hr : receives everywhere (titlesOf (flatten (docs.take i) ++ pre)) p with
      | false =>
          rw [intake_of_not_receives hr, Option.some.injEq] at hmore
          exact Or.inl hmore.symm
      | true =>
          rw [intake_of_receives hr] at hmore
          refine Or.inr ⟨?_, mapM_eq_some_iff.1 (supply_fixed hmore)⟩
          intro j hj
          obtain ⟨hext, htitle⟩ := isExtensionOf_iff.1 (mem_placesOf.1 hj)
          have hplace : (entry docs i).walk = pre ++ .node p cs es :: (flatten cs ++ post) := by
            rw [hw, walk_node, List.cons_append]
          exact ⟨hext, pre, _, _, hplace, htitle.symm, receives_iff_takesUp.1 hr⟩

theorem Stands.attached {i j : Fin docs.length} {e e' x : Entity} {k : Nat}
    (h : Stands everywhere docs i e e') (hj : (placesOf (isExtensionOf e.title) docs)[k]? = some j)
    (hx : e'.extensions[e.extensions.length + k]? = some x) :
    HostedBy everywhere docs j i ∧ Stands everywhere docs j (entry docs j) x := by
  obtain ⟨more, hext, hmore⟩ := h.exists_gained
  rw [hext, List.getElem?_append_right (Nat.le_add_right _ _), Nat.add_sub_cancel_left] at hx
  rcases hmore with rfl | ⟨hhosted, hmap⟩
  · simp at hx
  · have hrebuilt : rebuiltAt everywhere docs j = some x := by
      have hk := congrArg (fun l => l[k]?) hmap
      simpa [hj, hx] using hk
    exact ⟨hhosted j (List.mem_of_getElem? hj), stands_of_rebuiltAt hrebuilt⟩

theorem Stands.traced {i : Fin docs.length} {e e' : Entity} (h : Stands everywhere docs i e e') :
    Traced docs e e' := by
  obtain ⟨more, hext, hmore⟩ := h.exists_gained
  obtain ⟨pre, post, -, he⟩ := h
  refine ⟨rebuild_bare he, more, hext, ?_⟩
  rcases hmore with hnone | ⟨-, hmap⟩
  · exact Or.inl hnone
  · have hlength := congrArg List.length hmap
    rw [List.length_map, List.length_map] at hlength
    exact Or.inr hlength.symm

/-- Along a descent each extension is hosted by the one before it, and the entity that is reached
stands in the last of them. -/
theorem Descent.isChain {i : Fin docs.length} {d e e' : Entity} {trail : List (Fin docs.length)}
    (hd : rebuiltAt everywhere docs i = some d) (h : Descent docs i d trail e e') :
    (∃ j rest, trail = j :: rest ∧ Stands everywhere docs j e e') ∧
      trail.IsChain (HostedBy everywhere docs) ∧
      ∀ j ∈ trail, Relation.ReflTransGen (HostedBy everywhere docs) j i := by
  induction h with
  | start =>
      refine ⟨⟨i, [], rfl, stands_of_rebuiltAt hd⟩, List.isChain_singleton i, ?_⟩
      intro j hj
      rw [List.mem_singleton.1 hj]
  | nested _ hc hc' ih =>
      obtain ⟨⟨j, rest, htrail, hstands⟩, hchain, hreach⟩ := ih
      exact ⟨⟨j, rest, htrail, hstands.nested hc hc'⟩, hchain, hreach⟩
  | @attached trail e e' x k j _ hj hx ih =>
      obtain ⟨⟨c, rest, rfl, hstands⟩, hchain, hreach⟩ := ih
      obtain ⟨hhosted, hnext⟩ := hstands.attached hj hx
      refine ⟨⟨j, c :: rest, rfl, hnext⟩, List.isChain_cons_cons.2 ⟨hhosted, hchain⟩, ?_⟩
      intro a ha
      rcases List.mem_cons.1 ha with rfl | ha
      · exact (hreach c (List.mem_cons_self ..)).head hhosted
      · exact hreach a ha

/-- A descent from an entry that leads to no circle comes through no place twice. -/
theorem Descent.nodup {i : Fin docs.length} {d e e' : Entity} {trail : List (Fin docs.length)}
    (hi : NoCircleBelow everywhere docs i) (hd : rebuiltAt everywhere docs i = some d)
    (h : Descent docs i d trail e e') : trail.Nodup := by
  obtain ⟨-, hchain, hreach⟩ := h.isChain hd
  have hpair : trail.Pairwise (Relation.TransGen (HostedBy everywhere docs)) :=
    List.isChain_iff_pairwise.1 (hchain.imp fun a b hab => Relation.TransGen.single hab)
  -- A place that comes twice would be hosted by itself.
  refine hpair.imp_of_mem ?_
  rintro a b ha - hab rfl
  exact hi a (hreach a ha) hab

end Trails

/-- Folding comes to an end when no remaining entry leads to a circle of hosts, whatever circles
there are elsewhere: the recursion ends at every remaining entry, so there is a result, and no path
of the result comes through one extension of the top level twice. -/
theorem internal?_terminates (everywhere : Bool) (docs : List Entity)
    (h : ∀ i ∈ remaining docs, NoCircleBelow everywhere docs i) :
    (∀ i ∈ remaining docs, Acc (Calls everywhere docs) (callAt docs i)) ∧
      ∃ rebuilt : Fin docs.length → Entity,
        internal? everywhere docs = some ((remaining docs).map rebuilt) ∧
        ∀ i ∈ remaining docs, ∀ trail e e', Descent docs i (rebuilt i) trail e e' →
          trail.Nodup ∧ Traced docs e e' := by
  have hsome : ∀ i ∈ remaining docs, ∃ d, rebuiltAt everywhere docs i = some d := by
    intro i hi
    exact exists_rebuiltAt (h i hi)
  refine ⟨fun i hi => acc_callAt_iff.2 (h i hi),
    fun i => (rebuiltAt everywhere docs i).getD default, ?_, ?_⟩
  · rw [internal?_eq_mapM_remaining]
    exact mapM_eq_some_of_forall hsome
  · intro i hi trail e e' hdescent
    obtain ⟨d, hd⟩ := hsome i hi
    simp only [hd, Option.getD_some] at hdescent
    obtain ⟨j, rest, -, hstands⟩ := (hdescent.isChain hd).1
    exact ⟨hdescent.nodup (h i hi) hd, hstands.traced⟩

section Sample

/-- A type with an extension that holds the host of another one, beside two extensions that host
each other. -/
def strandedRing : List Entity :=
  [plain .classType ['A'] [] [],
   plain .extensionOf ['A'] [plain .structType ['A', '.', 'B'] [] []] [],
   plain .extensionOf ['A', '.', 'B'] [] [],
   plain .extensionOf ['C'] [plain .classType ['D'] [] []] [],
   plain .extensionOf ['D'] [plain .classType ['C'] [] []] []]

theorem strandedRing_circle :
    ∃ j, Relation.TransGen (HostedBy true strandedRing) j j := by
  have hCD : HostedBy true strandedRing ⟨3, by decide⟩ ⟨4, by decide⟩ :=
    ⟨rfl, [_], plain .classType ['C'] [] [], [], rfl, rfl, rfl, Or.inl rfl⟩
  have hDC : HostedBy true strandedRing ⟨4, by decide⟩ ⟨3, by decide⟩ :=
    ⟨rfl, [_], plain .classType ['D'] [] [], [], rfl, rfl, rfl, Or.inl rfl⟩
  exact ⟨_, Relation.TransGen.tail (Relation.TransGen.single hCD) hDC⟩

/-- The circle does not prevent a result, because the type does not lead to it. -/
theorem strandedRing_terminates :
    (∃ j, Relation.TransGen (HostedBy true strandedRing) j j) ∧
      (∀ i ∈ remaining strandedRing, NoCircleBelow true strandedRing i) ∧
      (∀ i ∈ remaining strandedRing, Acc (Calls true strandedRing) (callAt strandedRing i)) ∧
      ∃ rebuilt : Fin strandedRing.length → Entity,
        internal? true strandedRing = some ((remaining strandedRing).map rebuilt) ∧
        ∀ i ∈ remaining strandedRing, ∀ trail e e', Descent strandedRing i (rebuilt i) trail e e' →
          trail.Nodup ∧ Traced strandedRing e e' := by
  have hsome : (internal? true strandedRing).isSome = true := by
    decide +kernel
  obtain ⟨result, hresult⟩ := Option.isSome_iff_exists.1 hsome
  have hfree : ∀ i ∈ remaining strandedRing, NoCircleBelow true strandedRing i :=
    fun i hi => noCircleBelow_of_internal? hresult hi
  exact ⟨strandedRing_circle, hfree, internal?_terminates true strandedRing hfree⟩

end Sample

end Merge

end ApiAtlas
