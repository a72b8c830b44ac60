import ApiAtlas.Proofs.Merge.Soundness

/-!
# Grouping in instalments

**Input.** Two batches of entities without containers among them.  They are grouped at once, or the
first batch is grouped and then, with its containers, the second.

**Definitions.** `natural` and `containers` are the two parts of a top level.  `Matching` says how
the containers of the two ways compare.

**Results.**
* `natural_external`: grouping keeps the entries that are neither extensions nor containers.
* `containers_external`: grouping fills the containers that are there and adds new ones.
* `containers_of_natural`, `containers_in_instalments`: the containers of both ways, title by title.
* `external_instalments`: both ways have the same other entries, and matching containers.
-/

namespace ApiAtlas

namespace Merge

open Entity

section Defs

/-- The entries of a top level that are no containers. -/
def natural (docs : List Entity) : List Entity :=
  docs.filter fun d => !d.profile.synthetic

/-- The containers of a top level. -/
def containers (docs : List Entity) : List Entity :=
  docs.filter fun d => d.profile.synthetic

/-- Whether the container `c'` of two batches in instalments matches their container `c` at once:
they have the same fields and the same members, in the same order unless members are reversed; then
each batch is reversed by itself. -/
structure Matching (reversed : Bool) (first second : List Entity) (c c' : Entity) : Prop where
  profile_eq : c'.profile = c.profile
  children_eq : c'.children = c.children
  members_eq : c.extensions = membersOf reversed (first ++ second) c.title
  perm : c'.extensions.Perm c.extensions
  in_order : reversed = false → c'.extensions = c.extensions
  in_parts : reversed = true →
    c'.extensions = (first.filter (isExtensionOf c.title)).reverse ++
      (second.filter (isExtensionOf c.title)).reverse

end Defs

variable {title : Text} {reversed : Bool}

section Parts

theorem natural_append (as bs : List Entity) : natural (as ++ bs) = natural as ++ natural bs :=
  List.filter_append ..

theorem containers_append (as bs : List Entity) :
    containers (as ++ bs) = containers as ++ containers bs :=
  List.filter_append ..

theorem containers_eq_nil {docs : List Entity} (h : ∀ d ∈ docs, d.profile.synthetic = false) :
    containers docs = [] := by
  rw [containers, List.filter_eq_nil_iff]
  intro d hd
  simp [h d hd]

theorem containers_map_container (ts : List Text) (members : Text → List Entity) :
    containers (ts.map fun t => container t title (members t)) =
      ts.map fun t => container t title (members t) := by
  rw [containers, List.filter_eq_self]
  intro d hd
  obtain ⟨t, -, rfl⟩ := List.mem_map.1 hd
  rfl

theorem natural_map_container (ts : List Text) (members : Text → List Entity) :
    natural (ts.map fun t => container t title (members t)) = [] := by
  rw [natural, List.filter_eq_nil_iff]
  intro d hd
  obtain ⟨t, -, rfl⟩ := List.mem_map.1 hd
  simp [container]

/-- Grouping keeps the entries that are neither extensions nor containers. -/
theorem natural_external (docs : List Entity) :
    natural (external title reversed docs) =
      (natural docs).filter fun d => !d.isSourceExtension := by
  have hfill : natural (fill (membersOf reversed docs) []
      (docs.filter fun d => !d.isSourceExtension)) =
        natural (docs.filter fun d => !d.isSourceExtension) := by
    apply filter_fill_of_natural
    intro d hs
    rw [hs, Bool.not_true]
  rw [external_eq, natural_append, hfill, natural_map_container, List.append_nil, natural, natural,
    List.filter_comm]

/-- Grouping fills the containers that are there and adds new ones. -/
theorem containers_external (docs : List Entity) :
    containers (external title reversed docs) =
      fill (membersOf reversed docs) [] (containers docs) ++
        (newTitles docs).map fun t => container t title (membersOf reversed docs t) := by
  have hkept : containers (docs.filter fun d => !d.isSourceExtension) = containers docs := by
    rw [containers, containers, List.filter_filter]
    apply List.filter_congr
    intro d _
    cases hs : d.profile.synthetic with
    | true => simp [isSourceExtension_of_synthetic hs]
    | false => simp
  have hfill : containers (fill (membersOf reversed docs) []
      (docs.filter fun d => !d.isSourceExtension)) =
        fill (membersOf reversed docs) [] (containers docs) := by
    rw [← hkept]
    exact filter_fill _ (fun d more => rfl) fun d hs => hs
  rw [external_eq, containers_append, hfill, containers_map_container]

/-- Filling new containers of distinct titles. -/
theorem fill_map_container {ts : List Text} (hts : ts.Nodup) {seen : List Text}
    (hseen : ∀ t ∈ ts, t ∉ seen) (members more : Text → List Entity) :
    fill more seen (ts.map fun t => container t title (members t)) =
      ts.map fun t => container t title (members t ++ more t) := by
  induction ts generalizing seen with
  | nil =>
      rfl
  | cons t ts ih =>
      obtain ⟨ht, hts⟩ := List.nodup_cons.1 hts
      have hhead : (container t title (members t)).profile.synthetic = true ∧
          (container t title (members t)).title ∉ seen :=
        ⟨rfl, hseen t (List.mem_cons_self ..)⟩
      have hrest : ∀ u ∈ ts, u ∉ (container t title (members t)).title :: seen := by
        intro u hu
        rw [List.mem_cons, not_or]
        exact ⟨ne_of_mem_of_not_mem hu ht, hseen u (List.mem_cons_of_mem t hu)⟩
      rw [List.map_cons, List.map_cons, fill_cons_of_pos hhead, ih hts hrest]
      rfl

end Parts

section Batches

variable {first second : List Entity}

/-- Without containers at the top level, grouping makes one for every title. -/
theorem containers_of_natural {docs : List Entity}
    (h : ∀ d ∈ docs, d.profile.synthetic = false) :
    containers (external title reversed docs) =
      (extensionTitles docs).map fun t => container t title (membersOf reversed docs t) := by
  rw [external_of_no_container h, containers_append, containers_map_container,
    containers_eq_nil fun d hd => h d (List.mem_filter.1 hd).1, List.nil_append]

theorem containerTitles_of_natural {docs : List Entity}
    (h : ∀ d ∈ docs, d.profile.synthetic = false) :
    containerTitles (external title reversed docs) = extensionTitles docs := by
  change (containers (external title reversed docs)).map Entity.title = _
  rw [containers_of_natural h, List.map_map]
  exact List.map_id _

/-- A second batch adds only the titles that are new. -/
theorem extensionTitles_append (first second : List Entity) :
    extensionTitles (first ++ second) =
      extensionTitles first ++
        (extensionTitles second).filter fun t => !(extensionTitles first).contains t := by
  have hsame : ∀ t, (extensionTitles first).contains t =
      ((first.filter Entity.isSourceExtension).map Entity.title).contains t := by
    intro t
    rw [Bool.eq_iff_iff, List.contains_iff_mem, List.contains_iff_mem, extensionTitles,
      Text.mem_distinct]
  simp only [hsame]
  rw [extensionTitles, List.filter_append, List.map_append, Text.distinct_append]
  rfl

/-- Entries that are no extensions bring no titles. -/
theorem extensionTitles_append_of_none (h : ∀ d ∈ first, d.isSourceExtension = false) :
    extensionTitles (first ++ second) = extensionTitles second := by
  have hnone : first.filter Entity.isSourceExtension = [] := by
    rw [List.filter_eq_nil_iff]
    intro d hd
    simp [h d hd]
  rw [extensionTitles, List.filter_append, hnone, List.nil_append, extensionTitles]

/-- Entries that are no extensions bring no members. -/
theorem membersOf_append_of_none (h : ∀ d ∈ first, d.isSourceExtension = false) :
    membersOf reversed (first ++ second) = membersOf reversed second := by
  funext t
  have hnone : first.filter (isExtensionOf t) = [] := by
    rw [List.filter_eq_nil_iff]
    intro d hd
    simp [isExtensionOf, h d hd]
  rw [membersOf, membersOf, List.filter_append, hnone, List.nil_append]

/-- After the first batch, new containers are made for the titles that only the second one has. -/
theorem newTitles_in_instalments (h : ∀ d ∈ first ++ second, d.profile.synthetic = false) :
    newTitles (external title reversed first ++ second) =
      (extensionTitles second).filter fun t => !(extensionTitles first).contains t := by
  have hfirst := fun d hd => h d (List.mem_append_left second hd)
  have hsecond := fun d hd => h d (List.mem_append_right first hd)
  have hnone : containerTitles second = [] := by
    change (containers second).map Entity.title = []
    rw [containers_eq_nil hsecond, List.map_nil]
  have htitles : containerTitles (external title reversed first ++ second) =
      extensionTitles first := by
    rw [containerTitles_append, containerTitles_of_natural hfirst, hnone, List.append_nil]
  rw [newTitles,
    extensionTitles_append_of_none fun d hd => isSourceExtension_of_mem_external hd]
  apply List.filter_congr
  intro t _
  have hany : (external title reversed first ++ second).any (isContainerOf t) =
      (extensionTitles first).contains t := by
    rw [Bool.eq_iff_iff, ← mem_containerTitles, htitles, List.contains_iff_mem]
  rw [hany]

/-- In instalments, a container holds the members of the first batch and then those of the
second. -/
theorem containers_in_instalments (h : ∀ d ∈ first ++ second, d.profile.synthetic = false) :
    containers (external title reversed (external title reversed first ++ second)) =
      (extensionTitles (first ++ second)).map fun t =>
        container t title (membersOf reversed first t ++ membersOf reversed second t) := by
  have hfirst := fun d hd => h d (List.mem_append_left second hd)
  have hsecond := fun d hd => h d (List.mem_append_right first hd)
  have hnodup : (extensionTitles first).Nodup := Text.nodup_distinct _
  rw [containers_external, containers_append, containers_of_natural hfirst,
    containers_eq_nil hsecond, List.append_nil,
    membersOf_append_of_none fun d hd => isSourceExtension_of_mem_external hd,
    newTitles_in_instalments h, fill_map_container hnodup (fun t _ => List.not_mem_nil),
    extensionTitles_append, List.map_append]
  -- A title that only the second batch has is without members in the first.
  refine congrArg₂ _ rfl (List.map_congr_left ?_)
  intro t ht
  have hnone : membersOf reversed first t = [] := by
    apply membersOf_eq_nil
    simpa using (List.mem_filter.1 ht).2
  rw [hnone, List.nil_append]

/-- The two ways give one title matching containers. -/
theorem matching_container (t : Text) :
    Matching reversed first second
      (container t title (membersOf reversed (first ++ second) t))
      (container t title (membersOf reversed first t ++ membersOf reversed second t)) := by
  have htitle : (container t title (membersOf reversed (first ++ second) t)).title = t := rfl
  refine ⟨rfl, rfl, rfl, ?_, ?_, ?_⟩
  · cases reversed with
    | false => simp [container, membersOf]
    | true =>
        simp only [container, extensions_node, membersOf, List.filter_append, List.reverse_append,
          if_true]
        exact List.perm_append_comm
  · rintro rfl
    simp [container, membersOf]
  · rintro rfl
    rw [htitle]
    rfl

/-- Grouping two batches in instalments gives the same entries as grouping them at once, and matching
containers in the same order: one for each title, in the order of first occurrence. -/
theorem external_instalments (title : Text) (reversed : Bool) (first second : List Entity)
    (h : ∀ d ∈ first ++ second, d.profile.synthetic = false) :
    natural (external title reversed (external title reversed first ++ second)) =
        natural (external title reversed (first ++ second)) ∧
      containerTitles (external title reversed (first ++ second)) =
        extensionTitles (first ++ second) ∧
      List.Forall₂ (Matching reversed first second)
        (containers (external title reversed (first ++ second)))
        (containers (external title reversed (external title reversed first ++ second))) := by
  refine ⟨?_, containerTitles_of_natural h, ?_⟩
  · simp only [natural_external, natural_append, List.filter_append, List.filter_filter,
      Bool.and_self]
  · rw [containers_of_natural h, containers_in_instalments h, List.forall₂_map_left_iff,
      List.forall₂_map_right_iff, List.forall₂_same]
    intro t _
    exact matching_container t

end Batches

section Sample

/-- Extensions of two titles around a type. -/
def firstBatch : List Entity :=
  [plain .extensionOf ['A'] [] [],
   plain .classType ['B'] [] [],
   plain .extensionOf ['C'] [] [],
   plain .extensionOf ['A'] [plain .structType ['D'] [] []] []]

/-- Extensions of a new title and of one that the first batch has. -/
def secondBatch : List Entity :=
  [plain .extensionOf ['E'] [] [],
   plain .extensionOf ['A'] [plain .enumType ['F'] [] []] [],
   plain .classType ['G'] [] []]

theorem firstBatch_instalments :
    (∀ d ∈ firstBatch ++ secondBatch, d.profile.synthetic = false) ∧
      natural (external ['P'] true (external ['P'] true firstBatch ++ secondBatch)) =
          natural (external ['P'] true (firstBatch ++ secondBatch)) ∧
      containerTitles (external ['P'] true (firstBatch ++ secondBatch)) =
        extensionTitles (firstBatch ++ secondBatch) ∧
      List.Forall₂ (Matching true firstBatch secondBatch)
        (containers (external ['P'] true (firstBatch ++ secondBatch)))
        (containers (external ['P'] true (external ['P'] true firstBatch ++ secondBatch))) := by
  have hplain : ∀ d ∈ firstBatch ++ secondBatch, d.profile.synthetic = false := by
    decide
  exact ⟨hplain, external_instalments ['P'] true firstBatch secondBatch hplain⟩

end Sample

end Merge

end ApiAtlas
