import ApiAtlas.Text.Order

/-!
# Sets of names

**Definitions.** A set of names is kept as its strictly ascending list, so that two sets with the
same members are the same value and the list is the order in which a set is shown.

**Results.** A set made from a list has the members of the list (`mem_ofList`).
-/

namespace ApiAtlas

/-- A finite set of names, held in ascending order. -/
structure NameSet where
  /-- The members in ascending order. -/
  toList : List Text
  /-- Each member comes before all that follow it. -/
  ascending : toList.Pairwise fun a b => a.comesBefore b = true
deriving DecidableEq

namespace NameSet

section Defs

/-- The set without members. -/
def empty : NameSet :=
  ⟨[], .nil⟩

instance : Inhabited NameSet := ⟨empty⟩

instance : Membership Text NameSet := ⟨fun s t => t ∈ s.toList⟩

instance (t : Text) (s : NameSet) : Decidable (t ∈ s) :=
  inferInstanceAs (Decidable (t ∈ s.toList))

/-- A name put into its place in an ascending list, unless it is there already. -/
def place (a : Text) : List Text → List Text
  | [] => [a]
  | b :: l => if a.comesBefore b then a :: b :: l else if a = b then b :: l else b :: place a l

end Defs

section Laws

theorem mem_place {a x : Text} {l : List Text} : x ∈ place a l ↔ x = a ∨ x ∈ l := by
  induction l with
  | nil => simp [place]
  | cons b l ih =>
    by_cases hlt : a.comesBefore b = true
    · simp [place, hlt]
    · by_cases heq : a = b
      · subst heq
        simp [place]
      · simp only [place, hlt, heq, if_false, List.mem_cons]
        grind

theorem place_ascending {a : Text} {l : List Text} (h : l.Pairwise fun a b => a.comesBefore b = true) :
    (place a l).Pairwise fun a b => a.comesBefore b = true := by
  induction l with
  | nil => simp [place]
  | cons b l ih =>
    obtain ⟨hb, hl⟩ := List.pairwise_cons.1 h
    by_cases hlt : a.comesBefore b = true
    · rw [place, if_pos hlt]
      refine List.pairwise_cons.2 ⟨fun x hx => ?_, h⟩
      rcases List.mem_cons.1 hx with rfl | hx
      · exact hlt
      · exact Text.comesBefore_trans hlt (hb x hx)
    · by_cases heq : a = b
      · rw [place, if_neg hlt, if_pos heq]
        exact h
      · rw [place, if_neg hlt, if_neg heq]
        refine List.pairwise_cons.2 ⟨fun x hx => ?_, ih hl⟩
        rcases mem_place.1 hx with rfl | hx
        · rcases Text.comesBefore_total x b with h' | h' | h'
          · exact absurd h' heq
          · exact absurd h' hlt
          · exact h'
        · exact hb x hx

end Laws

/-- The set with one more name. -/
def insert (a : Text) (s : NameSet) : NameSet :=
  ⟨place a s.toList, place_ascending s.ascending⟩

/-- The set of the names in a list. -/
def ofList (names : List Text) : NameSet :=
  names.foldr insert empty

section Laws

@[simp] theorem mem_insert {a x : Text} {s : NameSet} : x ∈ insert a s ↔ x = a ∨ x ∈ s :=
  mem_place

/-- The set of a list has the members of the list. -/
@[simp] theorem mem_ofList {x : Text} {names : List Text} : x ∈ ofList names ↔ x ∈ names := by
  induction names with
  | nil => exact Iff.rfl
  | cons a names ih =>
    show x ∈ insert a (ofList names) ↔ _
    simp [ih]

end Laws

end NameSet

end ApiAtlas
