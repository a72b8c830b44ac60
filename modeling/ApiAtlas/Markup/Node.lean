import ApiAtlas.Text.Basic

/-!
# Markup trees

**Input.** The parts of a document before it is written.

**Definitions.** A document is a tree of three shapes: an element with a text and possibly a
child subtree, a collection whose members share the inherited indentation, and a collection of
siblings at the top level, in which list items that follow each other stay together.  `append`
adds nodes to what a node already contains.

**Results.** Appending twice is appending once (`append_append`).
-/

namespace ApiAtlas

namespace Markup

/-- Whether an element flows on or ends its line. -/
inductive Flow
  | inline
  | block
deriving DecidableEq, Repr, Inhabited

/-- How an element is written. -/
structure Style where
  /-- Tabs in front of each line; a negative number counts as none. -/
  indentation : Int := 0
  /-- The target of a link that the element is. -/
  link : Option Text := none
  /-- Line breaks before the element; a negative number counts as none. -/
  breaksBefore : Int := 0
  /-- Link targets whose numbers are already part of the text. -/
  references : List Text := []
deriving DecidableEq, Repr, Inhabited

/-- A part of a document. -/
inductive Node
  | element (text : Text) (flow : Flow) (style : Style) (child : Option Node)
  | indented (nodes : List Node)
  | siblings (nodes : List Node)
deriving Inhabited

namespace Node

section Defs

mutual

/-- Equality of nodes is decidable. -/
def decEq : (a b : Node) → Decidable (a = b)
  | element t f s none, element t' f' s' none =>
    decidable_of_iff (t = t' ∧ f = f' ∧ s = s') (by simp)
  | element t f s (some c), element t' f' s' (some c') =>
    match decEq c c' with
    | .isTrue h => decidable_of_iff (t = t' ∧ f = f' ∧ s = s') (by simp [h])
    | .isFalse h => .isFalse (by simp [h])
  | indented ns, indented ms =>
    match decEqAll ns ms with
    | .isTrue h => .isTrue (by simp [h])
    | .isFalse h => .isFalse (by simp [h])
  | siblings ns, siblings ms =>
    match decEqAll ns ms with
    | .isTrue h => .isTrue (by simp [h])
    | .isFalse h => .isFalse (by simp [h])
  | element _ _ _ none, element _ _ _ (some _) => .isFalse (by simp)
  | element _ _ _ (some _), element _ _ _ none => .isFalse (by simp)
  | element .., indented _ => .isFalse (by simp)
  | element .., siblings _ => .isFalse (by simp)
  | indented _, element .. => .isFalse (by simp)
  | indented _, siblings _ => .isFalse (by simp)
  | siblings _, element .. => .isFalse (by simp)
  | siblings _, indented _ => .isFalse (by simp)

/-- Equality of lists of nodes is decidable. -/
def decEqAll : (as bs : List Node) → Decidable (as = bs)
  | [], [] => .isTrue rfl
  | [], _ :: _ => .isFalse (by simp)
  | _ :: _, [] => .isFalse (by simp)
  | a :: as, b :: bs =>
    match decEq a b, decEqAll as bs with
    | .isTrue h, .isTrue hs => .isTrue (by simp [h, hs])
    | .isFalse h, _ => .isFalse (by simp [h])
    | _, .isFalse hs => .isFalse (by simp [hs])

end

instance : DecidableEq Node := decEq

/-- A node with more nodes after its contents: a collection grows, and an element passes them to
its child subtree, which is made if there is none. -/
def append : Node → List Node → Node
  | siblings ns, more => siblings (ns ++ more)
  | indented ns, more => indented (ns ++ more)
  | element t f s none, more => element t f s (some (indented more))
  | element t f s (some c), more => element t f s (some (append c more))

end Defs

section Laws

/-- Appending twice is appending once. -/
theorem append_append : (n : Node) → (xs ys : List Node) →
    (n.append xs).append ys = n.append (xs ++ ys)
  | siblings ns, xs, ys => by simp [append]
  | indented ns, xs, ys => by simp [append]
  | element t f s none, xs, ys => by simp [append]
  | element t f s (some c), xs, ys => by simp [append, append_append c xs ys]

end Laws

end Node

end Markup

end ApiAtlas
