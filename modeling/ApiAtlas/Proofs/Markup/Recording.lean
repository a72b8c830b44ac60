import ApiAtlas.Markup.Build
import ApiAtlas.Proofs.Markup.Links

/-!
# Recorded links

**Input.** An expression over the parts of documents, whose links are recorded in a registry while
they are built.

**Definitions.** The targets of a registry that a node does not refer to are `unreferenced`.  A
recipe is `Threaded` from a registry when its document ends with the definitions of its own
targets and of the unreferenced ones, and nothing else.

**Results.**
* `mem_links_of_mem_recorded`: a target that is recorded is one that the written node refers to.
* `distinct_linksWith`: so recording adds no definition.
* `threaded`: every recipe is threaded from every registry.
-/

namespace ApiAtlas

namespace Text

/-- Lines below other lines, with a line break between them if there are lines on both sides. -/
def continued (lines : List Text) : List Text → Text
  | [] => []
  | t :: ts => if lines.isEmpty then join ['\n'] (t :: ts) else '\n' :: join ['\n'] (t :: ts)

theorem join_append (ls ms : List Text) :
    join ['\n'] (ls ++ ms) = join ['\n'] ls ++ continued ls ms := by
  cases ms with
  | nil =>
      simp [continued]
  | cons m ms =>
      induction ls with
      | nil =>
          simp [continued]
      | cons l ls ih =>
          cases ls with
          | nil =>
              simp [join, continued]
          | cons k ls =>
              have hrest : join ['\n'] (k :: ls ++ m :: ms) =
                  join ['\n'] (k :: ls) ++ '\n' :: join ['\n'] (m :: ms) := by
                simpa [continued] using ih
              have hunfold : join ['\n'] (l :: k :: ls ++ m :: ms) =
                  l ++ ['\n'] ++ join ['\n'] (k :: ls ++ m :: ms) := rfl
              rw [hunfold, hrest, join]
              simp [continued]

end Text

namespace Markup

namespace Node

@[simp] theorem links_link (t u : Text) : (link t u).links = [target u] := by
  simp [link, ownLinks]

/-- The targets of a paragraph's nodes travel with the paragraph. -/
@[simp] theorem links_inlineParagraph (ns : List Node) (i : Int) :
    (inlineParagraph ns i).links = ns.flatMap links := by
  simp only [inlineParagraph, links_element_none, ownLinks, List.flatMap_map]
  rfl

@[simp] theorem links_listItem (m t : Text) (ns : List Node) (i : Int) :
    (listItem m t ns i).links = ns.flatMap links := by
  simp [listItem, ownLinks]

end Node

section Definitions

/-- The targets of a registry that a node does not refer to. -/
def unreferenced (n : Node) (r : Registry) : List Text :=
  r.links.filter (fun u => !n.links.contains u)

theorem unreferenced_eq (n : Node) (r : Registry) :
    unreferenced n r = (Text.distinct r.links).filter (fun u => !n.links.contains u) := by
  rw [unreferenced, Text.distinct_of_nodup r.nodup]

theorem nodup_distinct_append_unreferenced (n : Node) (r : Registry) :
    (Text.distinct n.links ++ unreferenced n r).Nodup := by
  rw [unreferenced_eq, ← Text.distinct_append]
  exact Text.nodup_distinct _

/-- Recording what a node refers to adds no definition. -/
theorem distinct_linksWith (n : Node) (start : Registry) {us : List Text}
    (hus : ∀ u ∈ us, u ∈ n.links) :
    Text.distinct (linksWith n (us.foldl Registry.register start)) =
      Text.distinct n.links ++ unreferenced n start := by
  have hnone : ∀ u ∈ (Text.distinct ((Text.distinct us).filter
      fun u => !start.links.contains u)).filter (fun u => !start.links.contains u),
      (!n.links.contains u) ≠ true := by
    intro u hu
    have hrecorded : u ∈ us := by
      simp only [List.mem_filter, Text.mem_distinct] at hu
      exact hu.1.1
    simp [hus u hrecorded]
  rw [linksWith, Registry.links_foldl_register, Text.distinct_append, Text.distinct_append,
    List.filter_append, List.filter_eq_nil_iff.2 hnone, List.append_nil, unreferenced_eq]

/-- What the definitions below a document add to those of its own targets. -/
theorem finalizeWith_foldl_register (n : Node) (start : Registry) {us : List Text}
    (hus : ∀ u ∈ us, u ∈ n.links) :
    (finalizeWith n (us.foldl Registry.register start)).1 = finalize n ++
      Text.continued (definitionLines n Registry.empty)
        ((unreferenced n start).map Link.definition) := by
  have hown : definitionLines n Registry.empty = (Text.distinct n.links).map Link.definition := by
    simp [definitionLines, linksWith, Registry.empty]
  rw [finalize, finalizeWith_fst, finalizeWith_fst, definitionLines, distinct_linksWith n start hus,
    List.map_append, ← hown, Text.join_append]
  simp

end Definitions

namespace Recipe

mutual

/-- A target that is recorded is one that the written node refers to. -/
theorem mem_links_of_mem_recorded {u : Text} : (r : Recipe) → u ∈ r.recorded → u ∈ r.build.links
  | element _ _ _ none, h | heading .., h | paragraph .., h | plain .., h | codeBlock .., h
  | code _, h | italics _, h | bold _, h | boldItalics _, h | newline, h | divider, h => by
    simp [recorded] at h
  | element _ _ _ (some c), h => by
    rw [recorded] at h
    simp [build, mem_links_of_mem_recorded c h]
  | indented ms, h | document ms, h | inlineParagraph ms _, h | bullet _ ms _, h
  | numbered _ ms _, h => by
    rw [recorded] at h
    simpa [build, Markup.document, Markup.bullet, Markup.numbered] using mem_links_of_mem_recordedAll ms h
  | link t v, h => by
    simpa [recorded, build] using h
  | append n ms, h => by
    rw [recorded, List.mem_append] at h
    rw [build, Node.links_append, List.mem_append]
    rcases h with h | h
    · exact Or.inl (mem_links_of_mem_recorded n h)
    · exact Or.inr (mem_links_of_mem_recordedAll ms h)

theorem mem_links_of_mem_recordedAll {u : Text} :
    (ms : List Recipe) → u ∈ recordedAll ms → u ∈ (buildAll ms).flatMap Node.links
  | [], h => by
    simp [recordedAll] at h
  | m :: ms, h => by
    rw [recordedAll, List.mem_append] at h
    rw [buildAll, List.flatMap_cons, List.mem_append]
    rcases h with h | h
    · exact Or.inl (mem_links_of_mem_recorded m h)
    · exact Or.inr (mem_links_of_mem_recordedAll ms h)

end

/-- The definitions below a document, when its links were recorded on the way from a registry. -/
structure Threaded (r : Recipe) (start : Registry) : Prop where
  /-- What is recorded is referred to. -/
  referred : ∀ u ∈ r.recorded, u ∈ (render .reference 0 r.build).links
  /-- The document without the registry comes first, then what the registry held before. -/
  text : (finalizeWith r.build (r.buildWith start).2).1 = finalize r.build ++
    Text.continued (definitionLines r.build Registry.empty)
      ((unreferenced r.build start).map Link.definition)
  /-- The lines define the targets in the order of their first use. -/
  lines : definitionLines r.build (r.buildWith start).2 =
    (Text.distinct r.build.links ++ unreferenced r.build start).map Link.definition
  /-- No target is defined twice. -/
  once : (Text.distinct r.build.links ++ unreferenced r.build start).Nodup
  /-- The registry is empty afterwards. -/
  emptied : (finalizeWith r.build (r.buildWith start).2).2 = Registry.empty
  /-- The order in which the parts are built does not matter. -/
  anyOrder : ∀ us : List Text, us.Perm r.recorded →
    finalizeWith r.build (us.foldl Registry.register start) =
      finalizeWith r.build (r.buildWith start).2

/-- The registry and the links that a written node reports agree; with a new registry nothing is
added. -/
theorem threaded (r : Recipe) : (∀ start : Registry, Threaded r start) ∧
    (finalizeWith r.build (r.buildWith Registry.empty).2).1 = finalize r.build := by
  have hreferred : ∀ u ∈ r.recorded, u ∈ r.build.links := by
    intro u hu
    exact mem_links_of_mem_recorded r hu
  have htext := fun start => finalizeWith_foldl_register r.build start hreferred
  constructor
  · intro start
    constructor
    case referred => exact hreferred
    case text => exact htext start
    case lines => rw [definitionLines, buildWith, distinct_linksWith r.build start hreferred]
    case once => exact nodup_distinct_append_unreferenced r.build start
    case emptied => rfl
    case anyOrder =>
      intro us hus
      have hmember : ∀ u ∈ us, u ∈ r.build.links := by
        intro u hu
        exact hreferred u (hus.mem_iff.1 hu)
      apply Prod.ext
      · rw [finalizeWith_foldl_register r.build start hmember, buildWith, htext]
      · rfl
  · rw [buildWith, htext]
    simp [unreferenced, Registry.empty, Text.continued]

end Recipe

end Markup

end ApiAtlas
