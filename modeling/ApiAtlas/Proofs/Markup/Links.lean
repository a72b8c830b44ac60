import ApiAtlas.Proofs.Markup.Accounting

/-!
# The link targets of a document

**Input.** A markup tree and a registry.

**Definitions.** `Node.links` are the targets that a written node refers to, in order and with
repetitions.  Below a document stand the `definitionLines` of its own targets and of those that
the registry holds.

**Results.**
* `links_append`: appended nodes add their targets at the end.
* `links_foldl_register`: registering one target after another adds what is new, once.
* `finalizeWith_fst`: a whole document is its text and its definition lines.
-/

namespace ApiAtlas

namespace Registry

/-- Registering one target after another adds those that are new, each once. -/
theorem links_foldl_register (us : List Text) (r : Registry) :
    (us.foldl register r).links =
      r.links ++ (Text.distinct us).filter (fun u => !r.links.contains u) := by
  induction us generalizing r with
  | nil =>
      simp [Text.distinct]
  | cons u us ih =>
      rw [List.foldl_cons, ih, links_register, Text.distinct]
      by_cases hu : u ∈ r.links
      · rw [if_pos hu, List.filter_cons, if_neg (by simp [hu]), List.filter_filter]
        congr 1
        apply List.filter_congr
        intro v _
        by_cases hv : v = u
        · simp [hv, hu]
        · simp [hv]
      · rw [if_neg hu, List.filter_cons, if_pos (by simp [hu]), List.filter_filter,
          List.append_assoc, List.singleton_append]
        congr 2
        apply List.filter_congr
        intro v _
        by_cases hv : v = u
        · simp [hv]
        · simp [hv]

end Registry

namespace Markup

namespace Node

/-- The link targets that a node refers to, in order and with repetitions. -/
def links (n : Node) : List Text :=
  (render .reference 0 n).links

@[simp] theorem links_element_none (t : Text) (f : Flow) (s : Style) :
    (element t f s none).links = ownLinks .reference s := by
  simp [links, render]

@[simp] theorem links_element_some (t : Text) (f : Flow) (s : Style) (c : Node) :
    (element t f s (some c)).links = ownLinks .reference s ++ c.links := by
  simp only [links, render]
  rw [render_links_indentation .reference (0 + 1) 0 c]

@[simp] theorem links_indented (ns : List Node) : (indented ns).links = ns.flatMap links := by
  simp only [links, render, renderAll_eq_map, List.flatMap_map]
  rfl

@[simp] theorem links_siblings (ns : List Node) : (siblings ns).links = ns.flatMap links := by
  simp only [links, render, renderAll_eq_map, List.flatMap_map]
  rfl

/-- Appended nodes add their targets at the end. -/
@[simp] theorem links_append (n : Node) (ms : List Node) :
    (n.append ms).links = n.links ++ ms.flatMap links :=
  links_render_append .reference 0 0 n ms

end Node

section Lines

/-- The targets that are defined below a document, with repetitions. -/
def linksWith (n : Node) (r : Registry) : List Text :=
  n.links ++ r.links

/-- The lines that define the targets of a document and of a registry. -/
def definitionLines (n : Node) (r : Registry) : List Text :=
  (Text.distinct (linksWith n r)).map Link.definition

theorem finalizeWith_fst (n : Node) (r : Registry) :
    (finalizeWith n r).1 =
      (render .reference 0 n).text ++ '\n' :: Text.join ['\n'] (definitionLines n r) := rfl

end Lines

end Markup

end ApiAtlas
