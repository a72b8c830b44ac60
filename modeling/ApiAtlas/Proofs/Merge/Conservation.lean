import ApiAtlas.Proofs.Merge.Completion
import ApiAtlas.Proofs.Merge.Grouping
import Mathlib.Algebra.Order.BigOperators.Group.List
import Mathlib.Algebra.Order.Group.Multiset
import Mathlib.Tactic.Abel

/-!
# Nothing is lost in merging

**Input.** The top level of a forest without circles of hosts.

**Definitions.** `takers` lists the titles that a traversal takes up, one for each entity that
takes up extensions.  `rebuiltForest` is the whole forest with every entry rebuilt.

**Results.**
* `labels_rebuildAll`: rebuilding adds what each taker takes up, and nothing else.
* `labels_internal`, `labels_le_internal`: folding conserves the labels when each title has one
  taker, and loses none when it has several.  Summed over all entries, the rebuilt forest counts
  every extension once where it stands and once for each of its takers; the entries that leave the
  top level cancel.
* `labels_external`: grouping adds one label for each new container.
* `merge?_conserves`: both passes together.
-/

namespace ApiAtlas

namespace Merge

open Entity

section Counting

/-- A selection and what it leaves out count together as the whole. -/
theorem labels_filter_add (q : Entity → Bool) (ds : List Entity) :
    labels (ds.filter q) + labels (ds.filter fun d => !q d) = labels ds := by
  rw [← labels_append]
  exact labels_perm (List.filter_append_perm q ds)

/-- Counting the extensions title by title counts those of all titles together. -/
theorem sum_labels_isExtensionOf {ts : List Text} (hts : ts.Nodup) (ds : List Entity) :
    (ts.map fun t => labels (ds.filter (isExtensionOf t))).sum =
      labels (ds.filter fun d => d.isSourceExtension && ts.contains d.title) := by
  induction ts with
  | nil =>
      simp
  | cons t ts ih =>
      obtain ⟨ht, hts⟩ := List.nodup_cons.1 hts
      rw [List.map_cons, List.sum_cons, ih hts,
        ← labels_filter_add (isExtensionOf t) (ds.filter fun d =>
          d.isSourceExtension && (t :: ts).contains d.title),
        List.filter_filter, List.filter_filter]
      refine congrArg₂ (fun as bs => labels as + labels bs) ?_ ?_
      · apply List.filter_congr
        intro d _
        by_cases hd : d.title = t
        · simp [isExtensionOf, hd]
        · simp [isExtensionOf, hd]
      · apply List.filter_congr
        intro d _
        by_cases hd : d.title = t
        · simp [isExtensionOf, hd, ht]
        · simp [isExtensionOf, hd]

/-- Counting each title once counts no more than counting it as often as it is there. -/
theorem sum_distinct_le (f : Text → Multiset Profile) (ts : List Text) :
    ((Text.distinct ts).map f).sum ≤ (ts.map f).sum := by
  induction ts with
  | nil =>
      exact le_refl _
  | cons t ts ih =>
      rw [Text.distinct, List.map_cons, List.map_cons, List.sum_cons, List.sum_cons]
      have hsub : ((Text.distinct ts).filter (· != t)).Sublist (Text.distinct ts) :=
        List.filter_sublist
      have hle := (hsub.map f).sum_le_sum fun m _ => Multiset.zero_le m
      exact add_le_add (le_refl _) (hle.trans ih)

/-- The first occurrences among texts, apart from those seen before. -/
theorem filter_distinct_cons (seen : List Text) (t : Text) (ts : List Text) :
    (Text.distinct (t :: ts)).filter (fun u => !seen.contains u) =
      if t ∈ seen then (Text.distinct ts).filter fun u => !seen.contains u
      else t :: (Text.distinct ts).filter fun u => !(t :: seen).contains u := by
  rw [Text.distinct, List.filter_cons, List.filter_filter]
  by_cases ht : t ∈ seen
  · rw [if_neg (by simp [ht]), if_pos ht]
    apply List.filter_congr
    intro u _
    by_cases hu : u = t
    · simp [hu, ht]
    · simp [hu]
  · rw [if_pos (by simp [ht]), if_neg ht]
    refine congrArg (t :: ·) (List.filter_congr ?_)
    intro u _
    by_cases hu : u = t
    · simp [hu]
    · simp [hu]

end Counting

section Folding

variable {everywhere : Bool} {give : Text → Option (List Entity)} {before : List Text}

/-- The titles that a traversal takes up, in order. -/
def takers (everywhere : Bool) : List Text → List Entity → List Text
  | _, [] => []
  | before, e :: es =>
      (if receives everywhere before e.profile then [e.title] else []) ++
        takers everywhere (including before e.profile) es

theorem takers_append (as bs : List Entity) :
    takers everywhere before (as ++ bs) =
      takers everywhere before as ++ takers everywhere (before ++ titlesOf as) bs := by
  induction as generalizing before with
  | nil =>
      simp [takers, titlesOf]
  | cons a as ih =>
      have hbefore : including before a.profile ++ titlesOf as =
          before ++ titlesOf (a :: as) := by
        rw [including_eq, List.append_assoc, ← titlesOf_append, List.singleton_append]
      rw [List.cons_append, takers, takers, ih, hbefore, List.append_assoc]

/-- When all hosts take up extensions, the takers are the hosts. -/
theorem takers_true (es : List Entity) : takers true before es = titlesOf es := by
  induction es generalizing before with
  | nil =>
      rfl
  | cons e es ih =>
      rw [takers, ih]
      cases h : e.profile.kind.extendable with
      | true =>
          have hr : receives true before e.profile = true := by simp [receives, h]
          rw [if_pos hr, titlesOf_cons_of_host h]
          rfl
      | false =>
          have hr : ¬ receives true before e.profile = true := by simp [receives, h]
          rw [if_neg hr, titlesOf_cons_of_not_host h, List.nil_append]

/-- When only the first host of a title takes up extensions, each title is taken up once. -/
theorem takers_false (es : List Entity) :
    takers false before es =
      (Text.distinct (titlesOf es)).filter fun t => !before.contains t := by
  induction es generalizing before with
  | nil =>
      rfl
  | cons e es ih =>
      cases h : e.profile.kind.extendable with
      | false =>
          have hr : ¬ receives false before e.profile = true := by simp [receives, h]
          rw [takers, if_neg hr, List.nil_append, ih, including_eq,
            titlesOf_cons_of_not_host h, titlesOf_cons_of_not_host h, titlesOf_nil,
            List.append_nil]
      | true =>
          rw [takers, ih, including_eq, titlesOf_cons_of_host h, titlesOf_cons_of_host h,
            titlesOf_nil, filter_distinct_cons]
          by_cases hin : e.profile.title ∈ before
          · have hr : ¬ receives false before e.profile = true := by simp [receives, hin]
            rw [if_neg hr, if_pos hin, List.nil_append]
            apply List.filter_congr
            intro t _
            by_cases ht : t = e.profile.title
            · simp [ht, hin]
            · simp [ht]
          · have hr : receives false before e.profile = true := by simp [receives, h, hin]
            rw [if_pos hr, if_neg hin, List.singleton_append]
            refine congrArg (e.profile.title :: ·) (List.filter_congr ?_)
            intro t _
            simp [or_comm]

/-- Rebuilding adds what each taker takes up, and nothing else. -/
theorem labels_rebuildAll {docs docs' : List Entity}
    (h : rebuildAll everywhere give before docs = some docs') :
    labels docs' = labels docs +
      ((takers everywhere before (flatten docs)).map fun t => labels ((give t).getD [])).sum := by
  induction docs using forest_induction generalizing before docs' with
  | nil =>
      rw [rebuildAll_nil, Option.some.injEq] at h
      simp [← h, takers]
  | cons p cs es rest ihc _ ihr =>
      obtain ⟨cs', more, rest', hcs, hmore, hrest, rfl⟩ := rebuildAll_cons_eq_some_iff.1 h
      have hown : ((if receives everywhere before p then [p.title] else []).map
          fun t => labels ((give t).getD [])).sum = labels more := by
        by_cases hr : receives everywhere before p = true
        · rw [intake_of_receives hr] at hmore
          simp [hr, hmore]
        · have hr' : receives everywhere before p = false := by simpa using hr
          rw [intake_of_not_receives hr', Option.some.injEq] at hmore
          simp [hr', ← hmore]
      have htakers : takers everywhere before (flatten (.node p cs es :: rest)) =
          (if receives everywhere before p then [p.title] else []) ++
            (takers everywhere (including before p) (flatten cs) ++
              takers everywhere (including before p ++ titlesOf (flatten cs))
                (flatten rest)) := by
        rw [flatten_cons, walk_node, List.cons_append, takers, takers_append]
        rfl
      rw [htakers, labels_cons, labels_cons, List.map_append, List.map_append,
        List.sum_append, List.sum_append, hown, ihr hrest]
      simp only [profile_node, children_node, extensions_node, labels_append, ihc hcs]
      abel

/-- Every title that an aligned traversal takes up is given. -/
theorem Aligned.exists_give {es es' : List Entity} {t : Text}
    (h : Aligned everywhere give before es es') (ht : t ∈ takers everywhere before es) :
    ∃ xs, give t = some xs := by
  induction h with
  | nil =>
      simp [takers] at ht
  | @cons before e e' more es es' _ hmore _ _ ih =>
      rw [takers, List.mem_append] at ht
      rcases ht with ht | ht
      · by_cases hr : receives everywhere before e.profile = true
        · rw [if_pos hr, List.mem_singleton] at ht
          rw [intake_of_receives hr] at hmore
          exact ⟨more, ht ▸ hmore⟩
        · rw [if_neg hr] at ht
          simp at ht
      · exact ih ht

end Folding

section Internal

variable {everywhere : Bool} {docs : List Entity}

/-- The forest in which every entry is rebuilt, also those that leave the top level. -/
def rebuiltForest (everywhere : Bool) (docs : List Entity) : List Entity :=
  (List.finRange docs.length).map fun i => (rebuiltAt everywhere docs i).getD default

/-- Without circles of hosts the whole forest is rebuilt. -/
theorem NoCircle.rebuildAll_eq (h : NoCircle everywhere docs) :
    rebuildAll everywhere (supply everywhere docs docs.length) [] docs =
      some (rebuiltForest everywhere docs) := by
  rw [rebuildAll_eq_mapM]
  exact mapM_eq_some_of_forall fun i _ => h.exists_rebuiltAt i

/-- A selection by fields selects the same places before and after rebuilding. -/
theorem NoCircle.filter_rebuiltForest (h : NoCircle everywhere docs) {q : Entity → Bool}
    (hq : ∀ e e' : Entity, e'.profile = e.profile → q e' = q e) :
    (rebuiltForest everywhere docs).filter q =
      (placesOf q docs).map fun i => (rebuiltAt everywhere docs i).getD default := by
  rw [rebuiltForest, List.filter_map, placesOf]
  refine congrArg (List.map _) (List.filter_congr ?_)
  intro i _
  obtain ⟨d, hd⟩ := h.exists_rebuiltAt i
  have hprofile : ((rebuiltAt everywhere docs i).getD default).profile = (entry docs i).profile := by
    rw [hd, Option.getD_some]
    exact profile_eq_of_bare_eq (rebuild_bare hd)
  exact hq (entry docs i) _ hprofile

/-- Folding keeps the entries of the rebuilt forest that are not hosted. -/
theorem NoCircle.internal?_eq (h : NoCircle everywhere docs) :
    internal? everywhere docs =
      some ((rebuiltForest everywhere docs).filter fun d => !isHosted docs d) := by
  have hfields : ∀ e e' : Entity, e'.profile = e.profile →
      (!isHosted docs e') = !isHosted docs e := by
    intro e e' he
    simp only [isHosted, Entity.isSourceExtension, Entity.title, he]
  rw [internal?_eq_mapM, h.filter_rebuiltForest hfields]
  exact mapM_eq_some_of_forall fun i _ => h.exists_rebuiltAt i

/-- What a taker takes up are the entries of the rebuilt forest with its title. -/
theorem NoCircle.labels_rebuiltForest (h : NoCircle everywhere docs) :
    labels (rebuiltForest everywhere docs) = labels docs +
      ((takers everywhere [] (flatten docs)).map fun t =>
        labels ((rebuiltForest everywhere docs).filter (isExtensionOf t))).sum := by
  rw [labels_rebuildAll h.rebuildAll_eq]
  refine congrArg (fun l => labels docs + List.sum l) (List.map_congr_left ?_)
  intro t ht
  obtain ⟨xs, hxs⟩ := (rebuildAll_aligned h.rebuildAll_eq).exists_give ht
  rw [h.filter_rebuiltForest fun e e' he => isExtensionOf_congr he t, hxs, Option.getD_some,
    eq_map_of_mapM (supply_fixed hxs)]

/-- What the top level hosts, counted title by title. -/
theorem sum_labels_isHosted (docs ds : List Entity) :
    ((Text.distinct (hostTitles docs)).map fun t => labels (ds.filter (isExtensionOf t))).sum =
      labels (ds.filter (isHosted docs)) := by
  rw [sum_labels_isExtensionOf (Text.nodup_distinct _)]
  refine congrArg labels (List.filter_congr ?_)
  intro d _
  rw [isHosted, Bool.eq_iff_iff]
  simp

/-- Folding into the first host of each title conserves the labels. -/
theorem labels_internal {result : List Entity} (h : NoCircle false docs)
    (hr : internal? false docs = some result) : labels result = labels docs := by
  have htakers : takers false [] (flatten docs) = Text.distinct (hostTitles docs) := by
    rw [takers_false, hostTitles_eq]
    exact List.filter_eq_self.2 fun _ _ => rfl
  have hlabels := h.labels_rebuiltForest
  rw [h.internal?_eq, Option.some.injEq] at hr
  rw [htakers, sum_labels_isHosted,
    ← labels_filter_add (isHosted docs) (rebuiltForest false docs), hr, add_comm] at hlabels
  exact add_right_cancel hlabels

/-- Folding into every host of a title loses no label. -/
theorem labels_le_internal {result : List Entity} (h : NoCircle true docs)
    (hr : internal? true docs = some result) : labels docs ≤ labels result := by
  have hle : labels ((rebuiltForest true docs).filter (isHosted docs)) ≤
      ((takers true [] (flatten docs)).map fun t =>
        labels ((rebuiltForest true docs).filter (isExtensionOf t))).sum := by
    rw [← sum_labels_isHosted, takers_true]
    exact sum_distinct_le _ _
  have hlabels := h.labels_rebuiltForest
  rw [h.internal?_eq, Option.some.injEq] at hr
  rw [← labels_filter_add (isHosted docs) (rebuiltForest true docs), hr, add_comm] at hlabels
  have hsum : labels docs + labels ((rebuiltForest true docs).filter (isHosted docs)) ≤
      labels result + labels ((rebuiltForest true docs).filter (isHosted docs)) := by
    rw [hlabels]
    exact add_le_add (le_refl _) hle
  exact le_of_add_le_add_right hsum

end Internal

section External

/-- What a new container says of itself. -/
def containerLabel (title t : Text) : Profile :=
  (container t title []).profile

/-- Filling adds the members of each title that has a container, once. -/
theorem labels_fill (members : Text → List Entity) (seen : List Text) (ds : List Entity) :
    labels (fill members seen ds) = labels ds +
      (((Text.distinct (containerTitles ds)).filter fun t => !seen.contains t).map fun t =>
        labels (members t)).sum := by
  induction ds generalizing seen with
  | nil =>
      rfl
  | cons d ds ih =>
      cases hs : d.profile.synthetic with
      | false =>
          have htitles : containerTitles (d :: ds) = containerTitles ds := by
            rw [containerTitles, List.filter_cons_of_neg (by simp [hs])]
            rfl
          rw [fill_cons_of_neg (by simp [hs]), labels_cons, labels_cons, ih, htitles, ← add_assoc]
      | true =>
          have htitles : containerTitles (d :: ds) = d.title :: containerTitles ds := by
            rw [containerTitles, List.filter_cons, if_pos hs]
            rfl
          rw [htitles, filter_distinct_cons]
          by_cases hin : d.title ∈ seen
          · rw [fill_cons_of_neg (by simp [hin]), if_pos hin, labels_cons, labels_cons, ih,
              ← add_assoc]
          · rw [fill_cons_of_pos ⟨hs, hin⟩, if_neg hin, labels_cons, labels_cons, ih,
              List.map_cons, List.sum_cons, extensions_extendBy, labels_append,
              profile_extendBy, children_extendBy]
            abel

/-- New containers count themselves and their members. -/
theorem labels_containers (title : Text) (members : Text → List Entity) (ts : List Text) :
    labels (ts.map fun t => container t title (members t)) =
      (ts.map (containerLabel title) : List Profile) +
        (ts.map fun t => labels (members t)).sum := by
  induction ts with
  | nil =>
      rfl
  | cons t ts ih =>
      have hfields : (container t title (members t)).profile = containerLabel title t := rfl
      have hchildren : (container t title (members t)).children = [] := rfl
      have hextensions : (container t title (members t)).extensions = members t := rfl
      rw [List.map_cons, List.map_cons, List.map_cons, labels_cons, ih, List.sum_cons,
        hfields, hchildren, hextensions, labels_nil, add_zero, ← Multiset.cons_coe,
        ← Multiset.singleton_add]
      abel

/-- The order in which a container holds its members does not matter for counting. -/
theorem labels_membersOf (reversed : Bool) (docs : List Entity) (t : Text) :
    labels (membersOf reversed docs t) = labels (docs.filter (isExtensionOf t)) := by
  cases reversed with
  | false => rfl
  | true => exact labels_perm (List.reverse_perm _)

/-- Every extension of the top level has a title with a container, old or new. -/
theorem title_mem_of_isSourceExtension {docs : List Entity} {d : Entity} (hd : d ∈ docs)
    (h : d.isSourceExtension = true) :
    d.title ∈ Text.distinct (containerTitles docs) ++ newTitles docs := by
  rw [List.mem_append, Text.mem_distinct, mem_containerTitles, newTitles, List.mem_filter,
    mem_extensionTitles]
  cases hany : docs.any (isContainerOf d.title) with
  | true => exact Or.inl rfl
  | false => exact Or.inr ⟨⟨d, hd, h, rfl⟩, rfl⟩

/-- No title is listed twice among those with a container, old or new. -/
theorem nodup_container_titles (docs : List Entity) :
    (Text.distinct (containerTitles docs) ++ newTitles docs).Nodup := by
  refine List.nodup_append'.2 ⟨Text.nodup_distinct _, nodup_newTitles docs, ?_⟩
  intro t ht
  exact not_mem_newTitles (Text.mem_distinct.1 ht)

/-- Grouping adds one label for each new container. -/
theorem labels_external (title : Text) (reversed : Bool) (docs : List Entity) :
    labels (external title reversed docs) =
      labels docs + ((newTitles docs).map (containerLabel title) : List Profile) := by
  have hunseen : ((Text.distinct (containerTitles docs)).filter
      fun t => !([] : List Text).contains t) = Text.distinct (containerTitles docs) :=
    List.filter_eq_self.2 fun _ _ => rfl
  -- The members of all titles are the extensions of the top level.
  have hmembers :
      ((Text.distinct (containerTitles docs)).map fun t =>
          labels (docs.filter (isExtensionOf t))).sum +
        ((newTitles docs).map fun t => labels (docs.filter (isExtensionOf t))).sum =
      labels (docs.filter Entity.isSourceExtension) := by
    rw [← List.sum_append, ← List.map_append,
      sum_labels_isExtensionOf (nodup_container_titles docs)]
    refine congrArg labels (List.filter_congr ?_)
    intro d hd
    cases h : d.isSourceExtension with
    | false => rfl
    | true =>
        have ht := title_mem_of_isSourceExtension hd h
        rw [Bool.true_and, List.contains_iff_mem]
        exact ht
  rw [external_eq, labels_append, labels_fill, labels_containers,
    containerTitles_filter, hunseen]
  simp only [labels_membersOf]
  rw [← labels_filter_add Entity.isSourceExtension docs, ← hmembers]
  abel

end External

section Merge

/-- Which containers are made depends on the fields of the entries only. -/
theorem newTitles_congr {as bs : List Entity}
    (h : as.map Entity.profile = bs.map Entity.profile) : newTitles as = newTitles bs := by
  have hfields : ∀ ds : List Entity, newTitles ds =
      (Text.distinct (((ds.map Entity.profile).filter Profile.isSourceExtension).map
        Profile.title)).filter fun t =>
          !(ds.map Entity.profile).any fun p => p.synthetic && p.title == t := by
    intro ds
    rw [List.filter_map, List.map_map]
    simp only [List.any_map]
    rfl
  rw [hfields as, hfields bs, h]

/-- Merging a forest without circles of hosts comes to an end.  When an extension is folded into
its first host only, the labels afterwards are those before and one for each new container; when
it is folded into all of them, no label becomes rarer. -/
theorem merge?_conserves (options : Options) (title : Text) (docs : List Entity)
    (h : NoCircle options.duplicateInternalMatches docs) :
    ∃ result,
      merge? options title docs = some result ∧
      (options.duplicateInternalMatches = false →
        labels result = labels docs +
          ((newTitles (docs.filter fun d => ¬ Matched docs d)).map
            (containerLabel title) : List Profile)) ∧
      (options.duplicateInternalMatches = true →
        ∀ label, (labels docs).count label ≤ (labels result).count label) := by
  have hcomplete : ∃ folded, internal? options.duplicateInternalMatches docs = some folded :=
    ⟨_, h.internal?_eq⟩
  obtain ⟨folded, hfolded⟩ := hcomplete
  refine ⟨external title options.reverseExternalOrder folded, ?_, ?_, ?_⟩
  · rw [merge?, hfolded]
    rfl
  · intro hfirst
    rw [hfirst] at h hfolded
    rw [labels_external, labels_internal h hfolded,
      newTitles_congr (map_profile_internal hfolded), not_isHosted_eq]
  · intro hall label
    rw [hall] at h hfolded
    apply Multiset.count_le_of_le
    rw [labels_external]
    exact (labels_le_internal h hfolded).trans (Multiset.le_add_right _ _)

/-- In the sample forest every host stands below what it hosts. -/
theorem noCircle_nestedHosts (everywhere : Bool) : NoCircle everywhere nestedHosts := by
  apply noCircle_of_rank fun i => [0, 1, 2, 0, 0].getD i 0
  intro j i hji
  have hcheck : ∀ j i : Fin nestedHosts.length, (entry nestedHosts j).isSourceExtension = true →
      (∃ e ∈ (entry nestedHosts i).walk,
        e.extendable = true ∧ e.title = (entry nestedHosts j).title) →
        [0, 1, 2, 0, 0].getD i 0 < [0, 1, 2, 0, 0].getD j 0 := by
    decide
  exact hcheck j i hji.1 hji.exists_host

theorem nestedHosts_conserved :
    NoCircle false nestedHosts ∧ NoCircle true nestedHosts ∧
      (∃ result,
        merge? ⟨true, false⟩ ['P'] nestedHosts = some result ∧
        labels result = labels nestedHosts +
          ((newTitles (nestedHosts.filter fun d => ¬ Matched nestedHosts d)).map
            (containerLabel ['P']) : List Profile)) ∧
      ∃ result,
        merge? ⟨true, true⟩ ['P'] nestedHosts = some result ∧
        ∀ label, (labels nestedHosts).count label ≤ (labels result).count label := by
  have hfirst := noCircle_nestedHosts false
  have hall := noCircle_nestedHosts true
  obtain ⟨moved, hmoved, hlabels, -⟩ := merge?_conserves ⟨true, false⟩ ['P'] nestedHosts hfirst
  obtain ⟨copied, hcopied, -, hcounts⟩ := merge?_conserves ⟨true, true⟩ ['P'] nestedHosts hall
  exact ⟨hfirst, hall, ⟨moved, hmoved, hlabels rfl⟩, copied, hcopied, hcounts rfl⟩

end Merge

end Merge

end ApiAtlas
