import ApiAtlas.Proofs.Markup.Accounting

/-!
# Appending to a tree

**Input.** A markup tree and nodes to append.

**Definitions.** A place in a tree is a list of numbers: which member to go to, level by level, the
child of an element being its only member.  `at?` finds the node at a place, and a `Label` is
what a node says apart from its members.  `Appended` collects what appending does to a tree, to the
places in it and to what is written of it.

**Results.**
* `exists_at?_append`: every node that was there keeps its place and its label.
* `exists_place_append`: the new nodes are members of one node, after those that it had.
* `render_append_nil`: appending nothing changes nothing that is written.
* `appended`: this is how every tree is appended to.
-/

namespace ApiAtlas

namespace Markup

namespace Node

section Places

/-- What a node says apart from its members. -/
inductive Label
  | element (text : Text) (flow : Flow) (style : Style)
  | indented
  | siblings
deriving DecidableEq, Repr

/-- The label of a node. -/
def label : Node → Label
  | element t f s _ => .element t f s
  | indented _ => .indented
  | siblings _ => .siblings

/-- The nodes directly in a node. -/
def members : Node → List Node
  | element _ _ _ child => child.toList
  | indented ns | siblings ns => ns

/-- The node at a place. -/
def at? : Node → List Nat → Option Node
  | n, [] => some n
  | n, i :: place => n.members[i]?.bind fun m => m.at? place

@[simp] theorem at?_nil (n : Node) : n.at? [] = some n := rfl

@[simp] theorem at?_cons (n : Node) (i : Nat) (place : List Nat) :
    n.at? (i :: place) = n.members[i]?.bind fun m => m.at? place := rfl

/-- Where members are only added at the end, the places in the other members stay. -/
theorem at?_of_members_append {n m : Node} {xs : List Node} (h : m.members = n.members ++ xs)
    {i : Nat} {place : List Nat} {found : Node} (hfound : n.at? (i :: place) = some found) :
    m.at? (i :: place) = some found := by
  obtain ⟨member, hmember, hrest⟩ := Option.bind_eq_some_iff.1 hfound
  have hlt : i < n.members.length := (List.getElem?_eq_some_iff.1 hmember).1
  rw [at?_cons, h, List.getElem?_append_left hlt, hmember]
  exact hrest

end Places

section Append

variable (xs : List Node)

theorem label_append (n : Node) : (n.append xs).label = n.label := by
  cases n with
  | element t f s child =>
      cases child with
      | none => rfl
      | some c => rfl
  | indented ns => rfl
  | siblings ns => rfl

/-- Every node that was there keeps its place and its label. -/
theorem exists_at?_append : (n : Node) → {place : List Nat} → {m : Node} →
    n.at? place = some m → ∃ m', (n.append xs).at? place = some m' ∧ m'.label = m.label
  | n, [], m, h => by
    obtain rfl : n = m := by simpa using h
    exact ⟨n.append xs, rfl, label_append xs n⟩
  -- at the end of the chain of elements, a longer place is in a member that was there
  | siblings ns, i :: place, m, h =>
    ⟨m, at?_of_members_append (n := siblings ns) (m := siblings (ns ++ xs)) rfl h, rfl⟩
  | indented ns, i :: place, m, h =>
    ⟨m, at?_of_members_append (n := indented ns) (m := indented (ns ++ xs)) rfl h, rfl⟩
  | element t f s none, i :: place, m, h => by
    simp [members] at h
  | element t f s (some c), 0 :: place, m, h =>
    exists_at?_append c h
  | element t f s (some c), (i + 1) :: place, m, h => by
    simp [members] at h

/-- The new nodes are members of one node, after those that it had if it was there. -/
theorem exists_place_append : (n : Node) → ∃ place m, (n.append xs).at? place = some m ∧
    m.members = (n.at? place).elim [] members ++ xs
  | siblings ns => ⟨[], siblings (ns ++ xs), rfl, rfl⟩
  | indented ns => ⟨[], indented (ns ++ xs), rfl, rfl⟩
  | element _ _ _ none => ⟨[0], indented xs, rfl, rfl⟩
  | element _ _ _ (some c) => by
    obtain ⟨place, m, hm, hmembers⟩ := exists_place_append c
    exact ⟨0 :: place, m, hm, hmembers⟩

end Append

end Node

section Rendering

/-- Appending nothing may add a collection without members, which is written as nothing. -/
theorem render_append_nil (mode : LinkMode) : (i : Int) → (n : Node) →
    render mode i (n.append []) = render mode i n
  | i, .siblings ns => by
    simp [Node.append]
  | i, .indented ns => by
    simp [Node.append]
  | i, .element t f s none => by
    simp [Node.append, render, renderAll, joinIndented]
  | i, .element t f s (some c) => by
    simp [Node.append, render, render_append_nil mode (i + 1) c]

end Rendering

/-- What appending nodes does to a tree. -/
structure Appended (n : Node) (xs : List Node) : Prop where
  /-- More nodes may be appended later or at once. -/
  again : ∀ ys, (n.append xs).append ys = n.append (xs ++ ys)
  /-- Every node that was there is in its place and says what it said. -/
  kept : ∀ place m, n.at? place = some m →
    ∃ m', (n.append xs).at? place = some m' ∧ m'.label = m.label
  /-- The new nodes are members of one node, after those that it had. -/
  placed : ∃ place m, (n.append xs).at? place = some m ∧
    m.members = (n.at? place).elim [] Node.members ++ xs
  /-- The new link targets come after the others, in the order of the new nodes. -/
  links : ∀ mode i j, (render mode i (n.append xs)).links =
    (render mode i n).links ++ xs.flatMap fun x => (render mode j x).links
  /-- Appending nothing does not show. -/
  neutral : ∀ mode i, render mode i (n.append []) = render mode i n

/-- Appending is an action on trees that keeps every node and the order of the links. -/
theorem appended (n : Node) (xs : List Node) : Appended n xs := by
  constructor
  case again => exact n.append_append xs
  case kept =>
    intro place m hm
    exact n.exists_at?_append xs hm
  case placed => exact n.exists_place_append xs
  case links =>
    intro mode i j
    exact links_render_append mode i j n xs
  case neutral =>
    intro mode i
    exact render_append_nil mode i n

end Markup

end ApiAtlas
