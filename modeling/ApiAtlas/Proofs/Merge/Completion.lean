import ApiAtlas.Proofs.Merge.Hosting
import Mathlib.Data.Fintype.Card

/-!
# When folding comes to an end

**Input.** The top level of a forest.

**Definitions.** `NoCircle` says that no extension is hosted by itself, in one step or several.

**Results.**
* `exists_chain_of_entryWith_none`: an entry that cannot be rebuilt starts a chain of extensions,
  each hosted by the one before, that is longer than the depth of the supply.
* `exists_rebuiltAt`: an entry that reaches no circle of hosts is rebuilt, because a chain without
  repetition is no longer than the top level.
-/

namespace ApiAtlas

namespace Merge

open Entity

variable {everywhere : Bool} {docs : List Entity}

/-- Whether no extension is hosted by itself, in one step or several. -/
def NoCircle (everywhere : Bool) (docs : List Entity) : Prop :=
  ∀ j, ¬ Relation.TransGen (HostedBy everywhere docs) j j

/-- Whether the second of two entries is an extension that the first one hosts. -/
def Hosts (everywhere : Bool) (docs : List Entity) (i j : Fin docs.length) : Prop :=
  HostedBy everywhere docs j i

/-- An entry that cannot be rebuilt hosts an extension whose title the supply does not give. -/
theorem exists_missing_title {give : Text → Option (List Entity)} {i : Fin docs.length}
    (h : entryWith everywhere give docs i = none) :
    ∃ t, give t = none ∧
      ∀ j ∈ placesOf (isExtensionOf t) docs, Hosts everywhere docs i j := by
  by_contra hno
  have hsome : ∃ d, entryWith everywhere give docs i = some d := by
    apply exists_entryWith
    intro pre e post hw hup
    cases hg : give e.title with
    | some xs =>
        exact ⟨xs, rfl⟩
    | none =>
        refine absurd ⟨e.title, hg, ?_⟩ hno
        intro j hj
        rw [mem_placesOf, isExtensionOf_iff] at hj
        exact ⟨hj.1, pre, e, post, hw, hj.2.symm, hup⟩
  obtain ⟨d, hd⟩ := hsome
  rw [h] at hd
  simp at hd

/-- An entry that cannot be rebuilt starts a chain of hosted extensions that is longer than the
depth of the supply. -/
theorem exists_chain_of_entryWith_none (depth : Nat) {i : Fin docs.length}
    (h : entryWith everywhere (supply everywhere docs depth) docs i = none) :
    ∃ chain : List (Fin docs.length),
      (i :: chain).IsChain (Hosts everywhere docs) ∧ chain.length = depth + 1 := by
  induction depth generalizing i with
  | zero =>
      obtain ⟨t, ht, hhosts⟩ := exists_missing_title h
      have hany : docs.any (isExtensionOf t) = true := by
        by_contra hno
        rw [supply, if_neg hno] at ht
        simp at ht
      obtain ⟨d, hd, hext⟩ := List.any_eq_true.1 hany
      obtain ⟨j, rfl⟩ := exists_entry hd
      have hj := hhosts j (mem_placesOf.2 hext)
      exact ⟨[j], List.isChain_pair.2 hj, rfl⟩
  | succ depth ih =>
      obtain ⟨t, ht, hhosts⟩ := exists_missing_title h
      rw [supply_succ] at ht
      have hmissing : ∃ j ∈ placesOf (isExtensionOf t) docs,
          entryWith everywhere (supply everywhere docs depth) docs j = none := by
        by_contra hno
        have hall := mapM_eq_some_of_forall fun j hj =>
          Option.ne_none_iff_exists'.1 fun hnone => hno ⟨j, hj, hnone⟩
        rw [hall] at ht
        simp at ht
      obtain ⟨j, hj, hnone⟩ := hmissing
      obtain ⟨chain, hchain, hlen⟩ := ih hnone
      refine ⟨j :: chain, List.isChain_cons_cons.2 ⟨hhosts j hj, hchain⟩, ?_⟩
      rw [List.length_cons, hlen]

/-- In a chain of hosts every entry comes, in one step or several, from each one before it. -/
theorem pairwise_of_isChain {l : List (Fin docs.length)}
    (h : l.IsChain (Hosts everywhere docs)) :
    l.Pairwise fun a b => Relation.TransGen (HostedBy everywhere docs) b a := by
  have : Trans (fun a b => Relation.TransGen (HostedBy everywhere docs) b a)
      (fun a b => Relation.TransGen (HostedBy everywhere docs) b a)
      (fun a b => Relation.TransGen (HostedBy everywhere docs) b a) :=
    ⟨fun hab hbc => hbc.trans hab⟩
  apply List.isChain_iff_pairwise.1
  exact h.imp fun a b hab => Relation.TransGen.single hab

/-- An entry from which no circle of hosts can be reached is rebuilt. -/
theorem exists_rebuiltAt {i : Fin docs.length}
    (hi : ∀ j, Relation.ReflTransGen (HostedBy everywhere docs) j i →
      ¬ Relation.TransGen (HostedBy everywhere docs) j j) :
    ∃ d, rebuiltAt everywhere docs i = some d := by
  by_contra hno
  have hnone : rebuiltAt everywhere docs i = none := by
    rw [Option.eq_none_iff_forall_ne_some]
    intro d hd
    exact hno ⟨d, hd⟩
  obtain ⟨chain, hchain, hlen⟩ := exists_chain_of_entryWith_none docs.length hnone
  have hpair := pairwise_of_isChain hchain
  have hreach : ∀ j ∈ i :: chain, Relation.ReflTransGen (HostedBy everywhere docs) j i := by
    intro j hj
    rcases List.mem_cons.1 hj with rfl | hj
    · exact Relation.ReflTransGen.refl
    · exact ((List.pairwise_cons.1 hpair).1 j hj).to_reflTransGen
  -- A repeated entry of the chain would close a circle.
  have hnodup : (i :: chain).Nodup := by
    refine hpair.imp_of_mem ?_
    rintro a b ha - hab rfl
    exact hi a (hreach a ha) hab
  have hle := hnodup.length_le_card
  rw [Fintype.card_fin, List.length_cons, hlen] at hle
  omega

/-- There is no circle when every host has a lower rank than what it hosts. -/
theorem noCircle_of_rank (rank : Fin docs.length → Nat)
    (h : ∀ j i, HostedBy everywhere docs j i → rank i < rank j) :
    NoCircle everywhere docs := by
  intro j hj
  have hlt : ∀ i, Relation.TransGen (HostedBy everywhere docs) j i → rank i < rank j := by
    intro i hi
    induction hi with
    | single hstep => exact h _ _ hstep
    | tail _ hstep ih => exact lt_trans (h _ _ hstep) ih
  exact lt_irrefl _ (hlt j hj)

/-- Without circles of hosts every entry is rebuilt. -/
theorem NoCircle.exists_rebuiltAt (h : NoCircle everywhere docs) (i : Fin docs.length) :
    ∃ d, rebuiltAt everywhere docs i = some d :=
  Merge.exists_rebuiltAt fun j _ => h j

end Merge

end ApiAtlas
