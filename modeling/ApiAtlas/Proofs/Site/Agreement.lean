import ApiAtlas.Proofs.Contents.Listing
import ApiAtlas.Site
import Mathlib.Data.List.Nodup

/-!
# The parts of a documentation agree

**Input.** The documentation of a store, and perhaps a page to show first.  Documents may be
converted to HTML by any function of their text.

**Definitions.** `textAt?` reads a file.  `Agreement` says how the table of contents, the search
index and the files refer to each other, along one order of the visible entities.

**Results.**
* `textAt?_putAll`: of the files put under one path, the last one counts.
* `pathOf_ne_commonPath`: the page of an entity is in a folder, so it is none of the common files.
* `exists_agreement`: the parts of every documentation agree.
-/

namespace ApiAtlas

namespace Site

section Files

/-- The text of the file at a path. -/
def textAt? (files : List SiteFile) (path : Text) : Option Text :=
  (files.find? fun f => f.path == path).map SiteFile.text

variable {files : List SiteFile} {f : SiteFile} {path : Text}

/-- Replacing a file keeps its path. -/
theorem path_replace (f g : SiteFile) : (if g.path = f.path then f else g).path = g.path := by
  split
  · exact (‹g.path = f.path›).symm
  · rfl

/-- A new path goes to the end; a known one stays in its place. -/
theorem paths_put (files : List SiteFile) (f : SiteFile) :
    (put files f).map SiteFile.path =
      if f.path ∈ files.map SiteFile.path then files.map SiteFile.path
      else files.map SiteFile.path ++ [f.path] := by
  have hknown : (files.any fun g => g.path == f.path) = true ↔
      f.path ∈ files.map SiteFile.path := by
    simp
  rw [put]
  by_cases h : f.path ∈ files.map SiteFile.path
  · rw [if_pos (hknown.2 h), if_pos h, List.map_map]
    exact List.map_congr_left fun g _ => path_replace f g
  · rw [if_neg (mt hknown.1 h), if_neg h, List.map_append]
    rfl

theorem mem_paths_put :
    path ∈ (put files f).map SiteFile.path ↔ path ∈ files.map SiteFile.path ∨ path = f.path := by
  rw [paths_put]
  split
  · constructor
    · exact Or.inl
    · rintro (h | rfl)
      · exact h
      · assumption
  · rw [List.mem_append, List.mem_singleton]

theorem nodup_paths_put (h : (files.map SiteFile.path).Nodup) :
    ((put files f).map SiteFile.path).Nodup := by
  rw [paths_put]
  split
  · exact h
  · rw [← List.concat_eq_append]
    exact h.concat ‹f.path ∉ _›

/-- A file replaces what was at its path, and nothing else. -/
theorem textAt?_put (files : List SiteFile) (f : SiteFile) (path : Text) :
    textAt? (put files f) path = if f.path = path then some f.text else textAt? files path := by
  rw [put]
  split
  case isTrue hknown =>
    -- Replacing keeps all paths, so the search ends at the same place as before.
    have hfind : (files.map fun g => if g.path = f.path then f else g).find?
          (fun g => g.path == path) =
        (files.find? fun g => g.path == path).map fun g => if g.path = f.path then f else g := by
      rw [List.find?_map]
      simp only [Function.comp_def, path_replace]
    rw [textAt?, hfind, textAt?]
    cases hold : files.find? fun g => g.path == path with
    | none =>
        have hpath : f.path ≠ path := by
          obtain ⟨g, hg, hgf⟩ := List.any_eq_true.1 hknown
          rintro rfl
          exact List.find?_eq_none.1 hold g hg hgf
        simp [hpath]
    | some g =>
        have hg : g.path = path := by simpa using List.find?_some hold
        by_cases hpath : f.path = path
        · simp [hg, hpath]
        · simp [hg, hpath, Ne.symm hpath]
  case isFalse hnew =>
    rw [textAt?, List.find?_append, textAt?]
    by_cases hpath : f.path = path
    · have hold : (files.find? fun g => g.path == path) = none := by
        rw [List.find?_eq_none]
        intro g hg hgf
        exact hnew (List.any_eq_true.2 ⟨g, hg, hpath ▸ hgf⟩)
      simp [hold, hpath]
    · simp [hpath]

theorem mem_paths_putAll (files more : List SiteFile) (path : Text) :
    path ∈ (putAll files more).map SiteFile.path ↔
      path ∈ files.map SiteFile.path ∨ path ∈ more.map SiteFile.path := by
  induction more generalizing files with
  | nil =>
      simp [putAll]
  | cons f more ih =>
      change path ∈ (putAll (put files f) more).map SiteFile.path ↔ _
      rw [ih, mem_paths_put, List.map_cons, List.mem_cons, or_assoc]

theorem nodup_paths_putAll (h : (files.map SiteFile.path).Nodup) (more : List SiteFile) :
    ((putAll files more).map SiteFile.path).Nodup := by
  induction more generalizing files with
  | nil =>
      exact h
  | cons f more ih =>
      exact ih (nodup_paths_put h)

/-- Of the files put under one path, the last one counts. -/
theorem textAt?_putAll (files more : List SiteFile) (path : Text) :
    textAt? (putAll files more) path =
      ((more.filter fun f => f.path == path).getLast?.map SiteFile.text).or
        (textAt? files path) := by
  induction more generalizing files with
  | nil =>
      rfl
  | cons f more ih =>
      change textAt? (putAll (put files f) more) path = _
      rw [ih, textAt?_put]
      by_cases h : f.path = path
      · rw [if_pos h, List.filter_cons_of_pos (by simpa using h), List.getLast?_cons]
        cases (more.filter fun f => f.path == path).getLast? with
        | none => rfl
        | some g => rfl
      · rw [if_neg h, List.filter_cons_of_neg (by simpa using h)]

end Files

section Paths

/-- Where a file is that does not belong to a single entity. -/
def commonPath (s : Site) (name : String) : Text :=
  name.toList ++ '.' :: s.writer.format.fileExtension

theorem commonFiles_eq (s : Site) (landing : Option Text) :
    s.commonFiles landing =
      ⟨s.commonPath "contents", s.contents .multiPage⟩ ::
        (landing.map fun t => ⟨s.commonPath "doclandingpage", s.writer.convert t⟩).toList :=
  rfl

/-- The page of an entity is in a folder, and the common files are not. -/
theorem pathOf_ne_commonPath (s : Site) (e : Entity) {name : String} (h : '/' ∉ name.toList) :
    s.pathOf e ≠ s.commonPath name := by
  have hfolder : '/' ∈ s.pathOf e := by
    simp [pathOf, Entity.link, Profile.link]
  have hextension : '/' ∉ s.writer.format.fileExtension := by
    cases s.writer.format with
    | markdown => decide
    | html => decide
  intro hpath
  rw [hpath, commonPath] at hfolder
  simp [h, hextension] at hfolder

theorem contents_ne_landing (s : Site) :
    s.commonPath "contents" ≠ s.commonPath "doclandingpage" := by
  rw [commonPath, commonPath]
  simp

end Paths

section Agreement

/-- The table of contents in Markdown. -/
def listing (s : Site) : Text :=
  Contents.markdown .multiPage s.writer.format s.config.minimumAccess s.store.topLevelIndex

/-- Whether the parts of a documentation agree along an order of its entities. -/
structure Agreement (s : Site) (landing : Option Text) (order : List Entity) : Prop where
  /-- The order is by the labels of the kinds, and keeps entities of one label as they stand. -/
  sorted : Contents.StablySorted s.entities order
  /-- The table of contents is the listing in the format of the pages. -/
  contents : s.contents .multiPage = s.writer.convert s.listing
  /-- The listing links to the page of each entity. -/
  targets : Contents.targets s.listing = order.map s.pathOf
  /-- The search index has a row for each entity. -/
  rows : s.lookup = order.map lookupEntry
  /-- Where pages are in HTML, the rows have the links of the listing. -/
  lookup : s.writer.format = .html → s.lookup.map LookupEntry.path = Contents.targets s.listing
  /-- No two files have one path. -/
  nodup : ((s.files landing).map SiteFile.path).Nodup
  /-- The files are those that the listing links to, and the common ones. -/
  paths : ∀ path, path ∈ (s.files landing).map SiteFile.path ↔
    path ∈ Contents.targets s.listing ∨ path = s.commonPath "contents" ∨
      landing.isSome = true ∧ path = s.commonPath "doclandingpage"
  /-- No page is in the place of a common file. -/
  apart : ∀ e, s.pathOf e ≠ s.commonPath "contents" ∧ s.pathOf e ≠ s.commonPath "doclandingpage"
  /-- A file has the page of the last entity that has its path. -/
  pages : ∀ e, textAt? (s.files landing) (s.pathOf e) =
    (s.entities.filter fun o => s.pathOf o == s.pathOf e).getLast?.map s.page
  /-- The table of contents is in its file. -/
  contents_text : textAt? (s.files landing) (s.commonPath "contents") =
    some (s.contents .multiPage)
  /-- The page to show first is in its file. -/
  landing_text : textAt? (s.files landing) (s.commonPath "doclandingpage") =
    landing.map s.writer.convert

variable (s : Site) (landing : Option Text)

theorem pathOf_ne_contents (e : Entity) : s.pathOf e ≠ s.commonPath "contents" :=
  pathOf_ne_commonPath s e (by decide)

theorem pathOf_ne_landing (e : Entity) : s.pathOf e ≠ s.commonPath "doclandingpage" :=
  pathOf_ne_commonPath s e (by decide)

theorem targets_listing : Contents.targets s.listing = (Contents.byKind s.entities).map s.pathOf :=
  Contents.targets_markdown _ _ _ _

theorem lookup_eq : s.lookup = (Contents.byKind s.entities).map lookupEntry := by
  rw [lookup, Contents.filter_byKind]
  rfl

/-- Rows name pages in HTML, so they have the links of the listing where pages are in HTML. -/
theorem paths_lookup (h : s.writer.format = .html) :
    s.lookup.map LookupEntry.path = Contents.targets s.listing := by
  rw [lookup_eq, targets_listing, List.map_map]
  apply List.map_congr_left
  intro e _
  rw [pathOf, h]
  rfl

theorem nodup_paths_files : ((s.files landing).map SiteFile.path).Nodup := by
  apply nodup_paths_putAll
  apply nodup_paths_putAll
  exact List.nodup_nil

theorem mem_paths_files (path : Text) :
    path ∈ (s.files landing).map SiteFile.path ↔
      path ∈ s.entities.map s.pathOf ∨ path = s.commonPath "contents" ∨
        landing.isSome = true ∧ path = s.commonPath "doclandingpage" := by
  have hpages : (s.entities.map s.pageFile).map SiteFile.path = s.entities.map s.pathOf := by
    rw [List.map_map]
    rfl
  rw [files, mem_paths_putAll, mem_paths_putAll, hpages, commonFiles_eq]
  cases landing with
  | none => simp
  | some t => simp

/-- The common files are put last, and no page has the path of one of them. -/
theorem textAt?_files_pathOf (e : Entity) :
    textAt? (s.files landing) (s.pathOf e) =
      (s.entities.filter fun o => s.pathOf o == s.pathOf e).getLast?.map s.page := by
  have hcommon : (s.commonFiles landing).filter (fun f => f.path == s.pathOf e) = [] := by
    rw [commonFiles_eq]
    cases landing with
    | none => simp [(pathOf_ne_contents s e).symm]
    | some t => simp [(pathOf_ne_contents s e).symm, (pathOf_ne_landing s e).symm]
  rw [files, textAt?_putAll, hcommon, textAt?_putAll, List.filter_map, List.getLast?_map]
  simp [textAt?, Function.comp_def, pageFile]

theorem textAt?_files_contents :
    textAt? (s.files landing) (s.commonPath "contents") = some (s.contents .multiPage) := by
  rw [files, textAt?_putAll, commonFiles_eq]
  cases landing with
  | none => simp
  | some t => simp [(contents_ne_landing s).symm]

theorem textAt?_files_landing :
    textAt? (s.files landing) (s.commonPath "doclandingpage") = landing.map s.writer.convert := by
  have hpages : (s.entities.map s.pageFile).filter
      (fun f => f.path == s.commonPath "doclandingpage") = [] := by
    rw [List.filter_map, List.map_eq_nil_iff, List.filter_eq_nil_iff]
    intro e _
    simpa [pageFile] using pathOf_ne_landing s e
  rw [files, textAt?_putAll, commonFiles_eq, textAt?_putAll, hpages]
  cases landing with
  | none => simp [contents_ne_landing s, textAt?]
  | some t => simp [contents_ne_landing s]

/-- The parts of every documentation agree. -/
theorem exists_agreement : ∃ order, s.Agreement landing order := by
  refine ⟨Contents.byKind s.entities, ?_⟩
  exact
    { sorted := Contents.byKind_stablySorted s.entities
      contents := rfl
      targets := targets_listing s
      rows := lookup_eq s
      lookup := paths_lookup s
      nodup := nodup_paths_files s landing
      paths := by
        intro path
        rw [mem_paths_files, targets_listing,
          ((Contents.byKind_perm s.entities).map s.pathOf).mem_iff]
      apart := fun e => ⟨pathOf_ne_contents s e, pathOf_ne_landing s e⟩
      pages := textAt?_files_pathOf s landing
      contents_text := textAt?_files_contents s landing
      landing_text := textAt?_files_landing s landing }

end Agreement

end Site

end ApiAtlas
