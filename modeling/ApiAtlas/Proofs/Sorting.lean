import Mathlib.Data.List.Basic

/-!
# Sorting that keeps the order within a class

**Input.** A list whose members have keys, and an order of the members in which exactly those of one
key are on a level.

**Definitions.** The class of a key is the list of the members that have it, as they stand.

**Results.**
* `eq_of_classes_eq`: a list in order is determined by its classes.
* `filter_mergeSort`: sorting by merging keeps the classes.
* `flatMap_classes_eq_mergeSort`: so one class after another is the sorted list.
-/

namespace ApiAtlas

namespace Sorting

variable {α κ : Type} [BEq κ] [LawfulBEq κ] (key : α → κ) {r : α → α → Bool} {as bs : List α}

/-- The members of a list are found in its classes. -/
theorem mem_of_classes_eq
    (h : ∀ k, as.filter (fun a => key a == k) = bs.filter (fun a => key a == k)) {a : α}
    (ha : a ∈ as) : a ∈ bs := by
  have hclass : a ∈ as.filter fun b => key b == key a := List.mem_filter.2 ⟨ha, by simp⟩
  rw [h] at hclass
  exact (List.mem_filter.1 hclass).1

/-- A list in order is determined by its classes: two of them begin with the same member, because it
is on a level with the least one of the other side, and the first of its class. -/
theorem eq_of_classes_eq
    (hlevel : ∀ a ∈ as, ∀ b ∈ as, r a b = true → r b a = true → key a = key b)
    (ha : as.Pairwise fun a b => r a b = true) (hb : bs.Pairwise fun a b => r a b = true)
    (h : ∀ k, as.filter (fun a => key a == k) = bs.filter (fun a => key a == k)) : as = bs := by
  induction as generalizing bs with
  | nil =>
      cases bs with
      | nil => rfl
      | cons y bs =>
          have hy : y ∈ ([] : List α) :=
            mem_of_classes_eq key (fun k => (h k).symm) (List.mem_cons_self ..)
          simp at hy
  | cons x as ih =>
      cases bs with
      | nil =>
          have hx : x ∈ ([] : List α) := mem_of_classes_eq key h (List.mem_cons_self ..)
          simp at hx
      | cons y bs =>
          obtain ⟨hxas, has⟩ := List.pairwise_cons.1 ha
          obtain ⟨hybs, hbs⟩ := List.pairwise_cons.1 hb
          have hy : y ∈ x :: as :=
            mem_of_classes_eq key (fun k => (h k).symm) (List.mem_cons_self ..)
          have hx : x ∈ y :: bs := mem_of_classes_eq key h (List.mem_cons_self ..)
          have hkey : key x = key y := by
            rcases List.mem_cons.1 hy with hyx | hyas
            · rw [hyx]
            · rcases List.mem_cons.1 hx with hxy | hxbs
              · rw [hxy]
              · exact hlevel x (List.mem_cons_self ..) y hy (hxas y hyas) (hybs x hxbs)
          have hclass := h (key x)
          rw [List.filter_cons_of_pos (by simp), List.filter_cons_of_pos (by simp [hkey])] at hclass
          obtain ⟨hxy, htail⟩ := List.cons.inj hclass
          have hrest : as = bs := by
            apply ih _ has hbs
            · intro k
              by_cases hk : key x = k
              · rw [← hk]
                exact htail
              · have hother := h k
                rw [List.filter_cons_of_neg (by simp [hk]),
                  List.filter_cons_of_neg (by simp [← hkey, hk])] at hother
                exact hother
            · intro a ha b hb
              exact hlevel a (List.mem_cons_of_mem x ha) b (List.mem_cons_of_mem x hb)
          rw [hxy, hrest]

/-- Sorting by merging keeps each class: it is in order as it stands, so it stays a part of the
list. -/
theorem filter_mergeSort (htrans : ∀ a b c, r a b = true → r b c = true → r a c = true)
    (htotal : ∀ a b, (r a b || r b a) = true) (hclass : ∀ a b, key a = key b → r a b = true)
    (as : List α) (k : κ) :
    (as.mergeSort r).filter (fun a => key a == k) = as.filter fun a => key a == k := by
  have hsorted : (as.filter fun a => key a == k).Pairwise fun a b => r a b = true := by
    apply List.pairwise_of_forall_mem_list
    intro a ha b hb
    have hak : key a = k := by simpa using (List.mem_filter.1 ha).2
    have hbk : key b = k := by simpa using (List.mem_filter.1 hb).2
    exact hclass a b (hak.trans hbk.symm)
  have hsub := (List.sublist_mergeSort htrans htotal hsorted List.filter_sublist).filter
    fun a => key a == k
  rw [List.filter_filter] at hsub
  simp only [Bool.and_self] at hsub
  exact (hsub.eq_of_length ((List.mergeSort_perm as r).filter _).length_eq.symm).symm

/-- Of several keys, each once, one class is taken up by its own key only. -/
theorem filter_flatMap_classes {ks : List κ} (hks : ks.Nodup) (as : List α) (k : κ) :
    (ks.flatMap fun j => as.filter fun a => key a == j).filter (fun a => key a == k) =
      if k ∈ ks then as.filter fun a => key a == k else [] := by
  induction ks with
  | nil =>
      simp
  | cons j ks ih =>
      obtain ⟨hj, hks⟩ := List.nodup_cons.1 hks
      rw [List.flatMap_cons, List.filter_append, ih hks, List.filter_filter]
      by_cases hkj : k = j
      · subst hkj
        simp [hj]
      · have hnone : (as.filter fun a => key a == k && key a == j) = [] := by
          rw [List.filter_eq_nil_iff]
          intro a _ ha
          simp only [Bool.and_eq_true, beq_iff_eq] at ha
          exact hkj (ha.1.symm.trans ha.2)
        simp [hnone, hkj]

/-- Keys that stand once each are in the order of their places. -/
theorem pairwise_idxOf {ks : List κ} (hks : ks.Nodup) :
    ks.Pairwise fun j k => ks.idxOf j ≤ ks.idxOf k := by
  rw [List.pairwise_iff_getElem]
  intro i j hi hj hij
  rw [hks.idxOf_getElem i hi, hks.idxOf_getElem j hj]
  exact Nat.le_of_lt hij

/-- One class after another, in the order of the keys, is the list sorted by the places of its
keys. -/
theorem flatMap_classes_eq_mergeSort {ks : List κ} (hks : ks.Nodup) (h : ∀ a ∈ as, key a ∈ ks) :
    (ks.flatMap fun k => as.filter fun a => key a == k) =
      as.mergeSort fun a b => ks.idxOf (key a) ≤ ks.idxOf (key b) := by
  have hkey : ∀ {a k}, a ∈ as.filter (fun a => key a == k) → key a = k := by
    intro a k ha
    simpa using (List.mem_filter.1 ha).2
  have htrans : ∀ a b c, decide (ks.idxOf (key a) ≤ ks.idxOf (key b)) = true →
      decide (ks.idxOf (key b) ≤ ks.idxOf (key c)) = true →
      decide (ks.idxOf (key a) ≤ ks.idxOf (key c)) = true := by
    intro a b c hab hbc
    exact decide_eq_true (Nat.le_trans (of_decide_eq_true hab) (of_decide_eq_true hbc))
  have htotal : ∀ a b, (decide (ks.idxOf (key a) ≤ ks.idxOf (key b)) ||
      decide (ks.idxOf (key b) ≤ ks.idxOf (key a))) = true := by
    intro a b
    simp [Nat.le_total]
  apply eq_of_classes_eq key
  case hlevel =>
    intro a ha b _ hab hba
    obtain ⟨k, -, hak⟩ := List.mem_flatMap.1 ha
    apply (List.idxOf_inj (h a (List.mem_filter.1 hak).1)).1
    exact Nat.le_antisymm (of_decide_eq_true hab) (of_decide_eq_true hba)
  case ha =>
    rw [List.pairwise_flatMap]
    constructor
    · intro k _
      apply List.pairwise_of_forall_mem_list
      intro a ha b hb
      simp [hkey ha, hkey hb]
    · apply (pairwise_idxOf hks).imp
      intro j k hjk a ha b hb
      simpa [hkey ha, hkey hb] using hjk
  case hb => exact List.pairwise_mergeSort htrans htotal as
  case h =>
    intro k
    rw [filter_flatMap_classes key hks, filter_mergeSort key htrans htotal (by simp +contextual)]
    split
    · rfl
    · symm
      rw [List.filter_eq_nil_iff]
      intro a ha hak
      exact ‹k ∉ ks› (beq_iff_eq.1 hak ▸ h a ha)

end Sorting

end ApiAtlas
