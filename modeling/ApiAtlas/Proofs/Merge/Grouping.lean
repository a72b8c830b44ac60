import ApiAtlas.Merge.External
import Mathlib.Data.List.Basic

/-!
# Grouping in one pass

**Input.** The top level of a forest.

**Definitions.** `fill` goes through a list once and gives the first container of each title the
members of that title.  `newTitles` lists the titles of extensions that have no container yet.

**Results.**
* `gather_docs`, `gather_containers`: one step of grouping is one `fill` for a single title.
* `fill_fill`, `filter_fill`: filling goes title by title, and commutes with taking extensions out.
* `external_eq`: grouping title by title is one `fill` for all titles, followed by the new
  containers.
* `containerTitles_external`, `mem_external`: the containers after grouping, and every entry.
-/

namespace ApiAtlas

namespace Merge

open Entity

section Defs

/-- The list in which the first container of each title, apart from the titles seen before, has
gained the members of that title. -/
def fill (members : Text → List Entity) : List Text → List Entity → List Entity
  | _, [] => []
  | seen, d :: ds =>
      if d.profile.synthetic && !seen.contains d.title then
        d.extendBy (members d.title) :: fill members (d.title :: seen) ds
      else d :: fill members seen ds

/-- The members of one title only. -/
def single (t : Text) (ms : List Entity) (u : Text) : List Entity :=
  if u = t then ms else []

/-- The titles of the extensions at the top level that have no container there, each once. -/
def newTitles (docs : List Entity) : List Text :=
  (extensionTitles docs).filter fun t => !docs.any (isContainerOf t)

/-- The titles of the containers of a list. -/
def containerTitles (ds : List Entity) : List Text :=
  (ds.filter fun d => d.profile.synthetic).map Entity.title

end Defs

section Fill

variable {members : Text → List Entity} {seen : List Text}

@[simp] theorem fill_nil : fill members seen [] = [] := rfl

theorem fill_cons_of_pos {d : Entity} {ds : List Entity}
    (h : d.profile.synthetic = true ∧ d.title ∉ seen) :
    fill members seen (d :: ds) =
      d.extendBy (members d.title) :: fill members (d.title :: seen) ds := by
  have htest : (d.profile.synthetic && !seen.contains d.title) = true := by
    simpa using h
  rw [fill, if_pos htest]

theorem fill_cons_of_neg {d : Entity} {ds : List Entity}
    (h : ¬ (d.profile.synthetic = true ∧ d.title ∉ seen)) :
    fill members seen (d :: ds) = d :: fill members seen ds := by
  have htest : ¬ (d.profile.synthetic && !seen.contains d.title) = true := by
    simpa using h
  rw [fill, if_neg htest]

@[simp] theorem extendBy_nil (e : Entity) : e.extendBy [] = e := by
  cases e with
  | node p cs es => simp [extendBy]

@[simp] theorem title_extendBy (e : Entity) (more : List Entity) :
    (e.extendBy more).title = e.title := rfl

@[simp] theorem isSourceExtension_extendBy (e : Entity) (more : List Entity) :
    (e.extendBy more).isSourceExtension = e.isSourceExtension := rfl

/-- A container is no extension from a record. -/
theorem isSourceExtension_of_synthetic {d : Entity} (h : d.profile.synthetic = true) :
    d.isSourceExtension = false := by
  simp [Entity.isSourceExtension, Profile.isSourceExtension, h]

theorem mem_containerTitles {t : Text} {ds : List Entity} :
    t ∈ containerTitles ds ↔ ds.any (isContainerOf t) = true := by
  simp [containerTitles, isContainerOf, and_assoc]

theorem mem_extensionTitles {t : Text} {docs : List Entity} :
    t ∈ extensionTitles docs ↔ ∃ d ∈ docs, d.isSourceExtension = true ∧ d.title = t := by
  simp [extensionTitles, and_assoc]

/-- Filling keeps the fields of every entry. -/
theorem map_profile_fill (ds : List Entity) :
    (fill members seen ds).map Entity.profile = ds.map Entity.profile := by
  induction ds generalizing seen with
  | nil =>
      rfl
  | cons d ds ih =>
      by_cases h : d.profile.synthetic = true ∧ d.title ∉ seen
      · rw [fill_cons_of_pos h, List.map_cons, List.map_cons, ih, profile_extendBy]
      · rw [fill_cons_of_neg h, List.map_cons, List.map_cons, ih]

/-- Filling without members changes nothing. -/
theorem fill_eq_self {ds : List Entity}
    (h : ∀ d ∈ ds, d.profile.synthetic = true → d.title ∉ seen → members d.title = []) :
    fill members seen ds = ds := by
  induction ds generalizing seen with
  | nil =>
      rfl
  | cons d ds ih =>
      by_cases hd : d.profile.synthetic = true ∧ d.title ∉ seen
      · have hrest : fill members (d.title :: seen) ds = ds := by
          apply ih
          intro e he hs hseen
          exact h e (List.mem_cons_of_mem d he) hs fun hin =>
            hseen (List.mem_cons_of_mem d.title hin)
        rw [fill_cons_of_pos hd, hrest, h d (List.mem_cons_self ..) hd.1 hd.2, extendBy_nil]
      · have hrest : fill members seen ds = ds :=
          ih fun e he => h e (List.mem_cons_of_mem d he)
        rw [fill_cons_of_neg hd, hrest]

/-- Filling twice is filling once with both lists of members. -/
theorem fill_fill (more : Text → List Entity) (ds : List Entity) :
    fill more seen (fill members seen ds) = fill (fun t => members t ++ more t) seen ds := by
  induction ds generalizing seen with
  | nil =>
      rfl
  | cons d ds ih =>
      by_cases h : d.profile.synthetic = true ∧ d.title ∉ seen
      · have h' : (d.extendBy (members d.title)).profile.synthetic = true ∧
            (d.extendBy (members d.title)).title ∉ seen := h
        rw [fill_cons_of_pos h, fill_cons_of_pos h', fill_cons_of_pos h, title_extendBy, ih]
        simp [extendBy]
      · rw [fill_cons_of_neg h, fill_cons_of_neg h, fill_cons_of_neg h, ih]

/-- Filling commutes with a selection by fields that keeps every container. -/
theorem filter_fill {q : Entity → Bool} (ds : List Entity)
    (hq : ∀ d more, q (d.extendBy more) = q d)
    (hs : ∀ d, d.profile.synthetic = true → q d = true) :
    (fill members seen ds).filter q = fill members seen (ds.filter q) := by
  induction ds generalizing seen with
  | nil =>
      rfl
  | cons d ds ih =>
      by_cases h : d.profile.synthetic = true ∧ d.title ∉ seen
      · have hd : q d = true := hs d h.1
        have hd' : q (d.extendBy (members d.title)) = true := by rw [hq, hd]
        rw [fill_cons_of_pos h, List.filter_cons_of_pos hd', List.filter_cons_of_pos hd,
          fill_cons_of_pos h, ih]
      · rw [fill_cons_of_neg h]
        by_cases hd : q d = true
        · rw [List.filter_cons_of_pos hd, List.filter_cons_of_pos hd, fill_cons_of_neg h, ih]
        · rw [List.filter_cons_of_neg hd, List.filter_cons_of_neg hd, ih]

/-- Filling leaves all entries alone that are no containers. -/
theorem filter_fill_of_natural {q : Entity → Bool} (ds : List Entity)
    (hq : ∀ d, d.profile.synthetic = true → q d = false) :
    (fill members seen ds).filter q = ds.filter q := by
  induction ds generalizing seen with
  | nil =>
      rfl
  | cons d ds ih =>
      by_cases h : d.profile.synthetic = true ∧ d.title ∉ seen
      · have hd : ¬ q d = true := by
          simp [hq d h.1]
        have hd' : ¬ q (d.extendBy (members d.title)) = true := by
          simp [hq (d.extendBy (members d.title)) h.1]
        rw [fill_cons_of_pos h, List.filter_cons_of_neg hd', List.filter_cons_of_neg hd, ih]
      · rw [fill_cons_of_neg h, List.filter_cons, List.filter_cons, ih]

/-- Filling leaves the extensions of the top level alone. -/
theorem filter_isExtensionOf_fill (t : Text) (ds : List Entity) :
    (fill members seen ds).filter (isExtensionOf t) = ds.filter (isExtensionOf t) := by
  apply filter_fill_of_natural
  intro d hs
  simp [isExtensionOf, isSourceExtension_of_synthetic hs]

/-- Filling makes no container and takes none away. -/
theorem any_isContainerOf_fill (t : Text) (ds : List Entity) :
    (fill members seen ds).any (isContainerOf t) = ds.any (isContainerOf t) := by
  have hp : ∀ es : List Entity, es.any (isContainerOf t) =
      (es.map Entity.profile).any fun p => p.synthetic && p.title == t := by
    intro es
    rw [List.any_map]
    rfl
  rw [hp, hp, map_profile_fill]

end Fill

section Step

variable {t : Text} {ms : List Entity}

theorem single_self : single t ms t = ms := by
  rw [single, if_pos rfl]

theorem single_of_ne {u : Text} (h : u ≠ t) : single t ms u = [] := by
  rw [single, if_neg h]

/-- Without a container of the title there is nothing to extend. -/
theorem extendFirst?_eq_none {ds : List Entity} (h : ds.any (isContainerOf t) = false) :
    extendFirst? t ms ds = none := by
  induction ds with
  | nil =>
      rfl
  | cons d ds ih =>
      rw [List.any_cons, Bool.or_eq_false_iff] at h
      rw [extendFirst?, if_neg (by simp [h.1]), ih h.2]
      rfl

/-- Extending the first container of a title is filling for that title. -/
theorem extendFirst?_eq_fill {ds : List Entity} {seen : List Text} (ht : t ∉ seen)
    (h : ds.any (isContainerOf t) = true) :
    extendFirst? t ms ds = some (fill (single t ms) seen ds) := by
  induction ds generalizing seen with
  | nil =>
      simp at h
  | cons d ds ih =>
      by_cases hd : isContainerOf t d = true
      · -- The container is found: all later ones of the title are passed over.
        have hcond := hd
        rw [isContainerOf, Bool.and_eq_true, beq_iff_eq] at hcond
        obtain ⟨hsyn, rfl⟩ := hcond
        have hrest : fill (single d.title ms) (d.title :: seen) ds = ds := by
          apply fill_eq_self
          intro e _ _ he
          exact single_of_ne fun heq => he (heq ▸ List.mem_cons_self ..)
        rw [extendFirst?, if_pos hd, fill_cons_of_pos ⟨hsyn, ht⟩, hrest, single_self]
      · have hany : ds.any (isContainerOf t) = true := by
          simpa [List.any_cons, hd] using h
        rw [extendFirst?, if_neg hd]
        by_cases hc : d.profile.synthetic = true ∧ d.title ∉ seen
        · have hne : d.title ≠ t := by
            intro heq
            exact hd (by simp [isContainerOf, hc.1, heq])
          have ht' : t ∉ d.title :: seen := by
            rw [List.mem_cons]
            rintro (heq | hin)
            · exact hne heq.symm
            · exact ht hin
          rw [fill_cons_of_pos hc, single_of_ne hne, extendBy_nil, ih ht' hany]
          rfl
        · rw [fill_cons_of_neg hc, ih ht hany]
          rfl

variable (title : Text) (reversed : Bool)

/-- Taking the extensions of a title out keeps every container. -/
theorem any_isContainerOf_filter (t u : Text) (ds : List Entity) :
    (ds.filter fun d => !isExtensionOf t d).any (isContainerOf u) =
      ds.any (isContainerOf u) := by
  rw [Bool.eq_iff_iff, List.any_eq_true, List.any_eq_true]
  constructor
  · rintro ⟨d, hd, hc⟩
    exact ⟨d, (List.mem_filter.1 hd).1, hc⟩
  · rintro ⟨d, hd, hc⟩
    refine ⟨d, List.mem_filter.2 ⟨hd, ?_⟩, hc⟩
    rw [isContainerOf, Bool.and_eq_true] at hc
    simp [isExtensionOf, isSourceExtension_of_synthetic hc.1]

/-- One step of grouping: the extensions of the title leave, and its first container is filled. -/
theorem gather_docs (g : Grouping) (t : Text) :
    (g.gather title reversed t).docs =
      fill (single t (membersOf reversed g.docs t)) []
        (g.docs.filter fun d => !isExtensionOf t d) := by
  cases hany : (g.docs.filter fun d => !isExtensionOf t d).any (isContainerOf t) with
  | true =>
      simp only [Grouping.gather, extendFirst?_eq_fill (List.not_mem_nil) hany]
  | false =>
      have hself : fill (single t (membersOf reversed g.docs t)) []
          (g.docs.filter fun d => !isExtensionOf t d) =
            g.docs.filter fun d => !isExtensionOf t d := by
        apply fill_eq_self
        intro d hd hs _
        apply single_of_ne
        intro heq
        have hno := List.any_eq_false.1 hany d hd
        simp [isContainerOf, hs, heq] at hno
      simp only [Grouping.gather, extendFirst?_eq_none hany, hself]

/-- One step of grouping: a title without a container gets one. -/
theorem gather_containers (g : Grouping) (t : Text) :
    (g.gather title reversed t).containers =
      g.containers ++
        if g.docs.any (isContainerOf t) then []
        else [container t title (membersOf reversed g.docs t)] := by
  have hrest := any_isContainerOf_filter t t g.docs
  cases hany : g.docs.any (isContainerOf t) with
  | true =>
      rw [hany] at hrest
      simp only [Grouping.gather, extendFirst?_eq_fill (List.not_mem_nil) hrest, if_true,
        List.append_nil]
  | false =>
      rw [hany] at hrest
      simp only [Grouping.gather, extendFirst?_eq_none hrest, Bool.false_eq_true, if_false]

end Step

section Run

variable (title : Text) (reversed : Bool)

/-- One step of grouping leaves the members of every other title as they are. -/
theorem membersOf_gather {g : Grouping} {t u : Text} (h : u ≠ t) :
    membersOf reversed (g.gather title reversed t).docs u = membersOf reversed g.docs u := by
  have hfilter : (g.gather title reversed t).docs.filter (isExtensionOf u) =
      g.docs.filter (isExtensionOf u) := by
    rw [gather_docs, filter_isExtensionOf_fill, List.filter_filter]
    apply List.filter_congr
    intro d _
    by_cases hu : isExtensionOf u d = true
    · have ht : isExtensionOf t d = false := by
        rw [isExtensionOf_iff] at hu
        simp [isExtensionOf, hu.2, h]
      rw [hu, ht]
      rfl
    · simp [hu]
  simp only [membersOf, hfilter]

/-- One step of grouping makes no container among the entries and takes none away. -/
theorem any_isContainerOf_gather (g : Grouping) (t u : Text) :
    (g.gather title reversed t).docs.any (isContainerOf u) =
      g.docs.any (isContainerOf u) := by
  rw [gather_docs, any_isContainerOf_fill, any_isContainerOf_filter]

/-- The entries after grouping a list of distinct titles: one pass over what was there. -/
theorem foldl_gather_docs {ts : List Text} (hts : ts.Nodup) (g : Grouping) :
    (ts.foldl (Grouping.gather title reversed) g).docs =
      fill (fun u => if u ∈ ts then membersOf reversed g.docs u else []) []
        (g.docs.filter fun d => !(d.isSourceExtension && ts.contains d.title)) := by
  induction ts generalizing g with
  | nil =>
      have hall : (g.docs.filter fun d =>
          !(d.isSourceExtension && ([] : List Text).contains d.title)) = g.docs := by
        rw [List.filter_eq_self]
        simp
      rw [hall, fill_eq_self (by simp)]
      rfl
  | cons t ts ih =>
      obtain ⟨ht, hts⟩ := List.nodup_cons.1 hts
      have hmembers : (fun u => if u ∈ ts then
          membersOf reversed (g.gather title reversed t).docs u else []) =
            fun u => if u ∈ ts then membersOf reversed g.docs u else [] := by
        funext u
        by_cases hu : u ∈ ts
        · rw [if_pos hu, if_pos hu, membersOf_gather title reversed (ne_of_mem_of_not_mem hu ht)]
        · rw [if_neg hu, if_neg hu]
      rw [List.foldl_cons, ih hts, hmembers, gather_docs, filter_fill, fill_fill,
        List.filter_filter]
      · refine congrArg₂ (fun m ds => fill m [] ds) ?_ ?_
        · funext u
          by_cases hu : u = t
          · subst hu
            simp [single_self, ht]
          · simp [single_of_ne hu, hu]
        · apply List.filter_congr
          intro d _
          by_cases hd : d.title = t
          · simp [isExtensionOf, hd, ht]
          · simp [isExtensionOf, hd]
      · intro d more
        rfl
      · intro d hs
        simp [isSourceExtension_of_synthetic hs]

/-- The containers after grouping a list of distinct titles: one for each title without. -/
theorem foldl_gather_containers {ts : List Text} (hts : ts.Nodup) (g : Grouping) :
    (ts.foldl (Grouping.gather title reversed) g).containers =
      g.containers ++
        (ts.filter fun t => !g.docs.any (isContainerOf t)).map fun t =>
          container t title (membersOf reversed g.docs t) := by
  induction ts generalizing g with
  | nil =>
      simp
  | cons t ts ih =>
      obtain ⟨ht, hts⟩ := List.nodup_cons.1 hts
      have hlater : (ts.filter fun u =>
          !(g.gather title reversed t).docs.any (isContainerOf u)).map (fun u =>
            container u title (membersOf reversed (g.gather title reversed t).docs u)) =
          (ts.filter fun u => !g.docs.any (isContainerOf u)).map fun u =>
            container u title (membersOf reversed g.docs u) := by
        simp only [any_isContainerOf_gather]
        apply List.map_congr_left
        intro u hu
        have hut : u ≠ t := ne_of_mem_of_not_mem (List.mem_filter.1 hu).1 ht
        rw [membersOf_gather title reversed hut]
      rw [List.foldl_cons, ih hts, hlater, gather_containers, List.append_assoc]
      cases hany : g.docs.any (isContainerOf t) with
      | true => simp [hany]
      | false => simp [hany]

/-- A title that no extension of the top level has is without members. -/
theorem membersOf_eq_nil {docs : List Entity} {t : Text} (h : t ∉ extensionTitles docs) :
    membersOf reversed docs t = [] := by
  have hnone : docs.filter (isExtensionOf t) = [] := by
    rw [List.filter_eq_nil_iff]
    intro d hd hext
    rw [isExtensionOf_iff] at hext
    exact h (mem_extensionTitles.2 ⟨d, hd, hext.1, hext.2⟩)
  simp [membersOf, hnone]

/-- Grouping title by title is one pass that fills the first container of each title, followed by
a new container for each title without one. -/
theorem external_eq (docs : List Entity) :
    external title reversed docs =
      fill (membersOf reversed docs) [] (docs.filter fun d => !d.isSourceExtension) ++
        (newTitles docs).map fun t => container t title (membersOf reversed docs t) := by
  have hnodup : (extensionTitles docs).Nodup := Text.nodup_distinct _
  have hmembers : (fun u => if u ∈ extensionTitles docs then membersOf reversed docs u else []) =
      membersOf reversed docs := by
    funext u
    by_cases hu : u ∈ extensionTitles docs
    · rw [if_pos hu]
    · rw [if_neg hu, membersOf_eq_nil reversed hu]
  have hall : (docs.filter fun d =>
      !(d.isSourceExtension && (extensionTitles docs).contains d.title)) =
        docs.filter fun d => !d.isSourceExtension := by
    apply List.filter_congr
    intro d hd
    cases hext : d.isSourceExtension with
    | false => rfl
    | true =>
        have htitle : d.title ∈ extensionTitles docs :=
          mem_extensionTitles.2 ⟨d, hd, hext, rfl⟩
        simp [htitle]
  rw [external, foldl_gather_docs title reversed hnodup,
    foldl_gather_containers title reversed hnodup, hmembers, hall]
  rfl

end Run

section Containers

variable {title : Text} {reversed : Bool} {docs : List Entity}

theorem containerTitles_eq_map (ds : List Entity) :
    containerTitles ds =
      ((ds.map Entity.profile).filter Profile.synthetic).map Profile.title := by
  rw [List.filter_map, List.map_map]
  rfl

@[simp] theorem containerTitles_append (as bs : List Entity) :
    containerTitles (as ++ bs) = containerTitles as ++ containerTitles bs := by
  simp [containerTitles]

/-- The containers stay when the extensions leave the top level. -/
theorem containerTitles_filter (docs : List Entity) :
    containerTitles (docs.filter fun d => !d.isSourceExtension) = containerTitles docs := by
  rw [containerTitles, List.filter_filter, containerTitles]
  refine congrArg (List.map Entity.title) (List.filter_congr ?_)
  intro d _
  cases hs : d.profile.synthetic with
  | true => simp [isSourceExtension_of_synthetic hs]
  | false => simp

theorem nodup_newTitles (docs : List Entity) : (newTitles docs).Nodup :=
  (Text.nodup_distinct _).sublist List.filter_sublist

theorem not_mem_newTitles {t : Text} (h : t ∈ containerTitles docs) : t ∉ newTitles docs := by
  intro hnew
  rw [mem_containerTitles] at h
  rw [newTitles, List.mem_filter, h] at hnew
  simp at hnew

/-- Grouping keeps the containers in order, and makes one for each title without one. -/
theorem containerTitles_external :
    containerTitles (external title reversed docs) = containerTitles docs ++ newTitles docs := by
  have hfill : containerTitles
      (fill (membersOf reversed docs) [] (docs.filter fun d => !d.isSourceExtension)) =
        containerTitles docs := by
    rw [containerTitles_eq_map, map_profile_fill, ← containerTitles_eq_map,
      containerTitles_filter]
  have hnew : ∀ ts : List Text,
      containerTitles (ts.map fun t => container t title (membersOf reversed docs t)) = ts := by
    intro ts
    rw [containerTitles_eq_map, List.map_map]
    induction ts with
    | nil =>
        rfl
    | cons t ts ih =>
        rw [List.map_cons, List.filter_cons_of_pos rfl, List.map_cons, ih]
        rfl
  rw [external_eq, containerTitles_append, hfill, hnew]

theorem mem_membersOf {t : Text} {d : Entity} :
    d ∈ membersOf reversed docs t ↔ d ∈ docs ∧ isExtensionOf t d = true := by
  cases reversed with
  | false => simp [membersOf]
  | true => simp [membersOf]

/-- An entry after filling is one from before, a container perhaps with the members of its
title. -/
theorem mem_fill {members : Text → List Entity} {seen : List Text} {ds : List Entity}
    {d : Entity} (h : d ∈ fill members seen ds) :
    d ∈ ds ∨ ∃ c ∈ ds, c.profile.synthetic = true ∧ d = c.extendBy (members c.title) := by
  induction ds generalizing seen with
  | nil =>
      simp at h
  | cons a ds ih =>
      by_cases ha : a.profile.synthetic = true ∧ a.title ∉ seen
      · rw [fill_cons_of_pos ha, List.mem_cons] at h
        rcases h with rfl | h
        · exact Or.inr ⟨a, List.mem_cons_self .., ha.1, rfl⟩
        · rcases ih h with h | ⟨c, hc, hs, rfl⟩
          · exact Or.inl (List.mem_cons_of_mem a h)
          · exact Or.inr ⟨c, List.mem_cons_of_mem a hc, hs, rfl⟩
      · rw [fill_cons_of_neg ha, List.mem_cons] at h
        rcases h with rfl | h
        · exact Or.inl (List.mem_cons_self ..)
        · rcases ih h with h | ⟨c, hc, hs, rfl⟩
          · exact Or.inl (List.mem_cons_of_mem a h)
          · exact Or.inr ⟨c, List.mem_cons_of_mem a hc, hs, rfl⟩

/-- An entry after grouping was there before and is no extension, or is a container: an old one,
perhaps with the members of its title, or a new one with members. -/
theorem mem_external {d : Entity} (h : d ∈ external title reversed docs) :
    (d ∈ docs ∧ d.isSourceExtension = false) ∨
      (∃ c ∈ docs, c.profile.synthetic = true ∧
        d = c.extendBy (membersOf reversed docs c.title)) ∨
      ∃ t, membersOf reversed docs t ≠ [] ∧ d = container t title (membersOf reversed docs t) := by
  rw [external_eq, List.mem_append] at h
  rcases h with h | h
  · rcases mem_fill h with h | ⟨c, hc, hs, rfl⟩
    · rw [List.mem_filter] at h
      exact Or.inl ⟨h.1, by simpa using h.2⟩
    · exact Or.inr (Or.inl ⟨c, (List.mem_filter.1 hc).1, hs, rfl⟩)
  · obtain ⟨t, ht, rfl⟩ := List.mem_map.1 h
    obtain ⟨d, hd, hext, rfl⟩ := mem_extensionTitles.1 (List.mem_filter.1 ht).1
    have hmember : d ∈ membersOf reversed docs d.title :=
      mem_membersOf.2 ⟨hd, isExtensionOf_iff.2 ⟨hext, rfl⟩⟩
    exact Or.inr (Or.inr ⟨d.title, List.ne_nil_of_mem hmember, rfl⟩)

end Containers

end Merge

end ApiAtlas
