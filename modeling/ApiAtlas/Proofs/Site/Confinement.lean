import ApiAtlas.Proofs.Contents.Sections
import ApiAtlas.Proofs.Path.Relative
import ApiAtlas.Proofs.Site.Agreement

/-!
# Where the files of a documentation are

**Input.** The documentation of a store whose titles may be any texts, and perhaps a page to show
first.

**Definitions.** `Located` lists the places of files: two fixed ones, and a page in the folder of
its kind, whose name is a slug.  `Confined` draws the conclusions: such a path is relative, goes
down by one folder at most, and leads from any output folder to a file inside it.

**Results.**
* `Path.parts_resolve_append`: names without `..` lead down from where a path leads.
* `located_of_mem_files`: every file is in one of the places.
* `files_confined`: every file of every documentation is confined.
-/

namespace ApiAtlas

namespace Text

theorem count_join {a : Char} {ts : List Text} (h : ∀ t ∈ ts, a ∉ t) :
    (join [a] ts).count a = ts.length - 1 := by
  induction ts with
  | nil =>
      simp
  | cons t ts ih =>
      have ht : t.count a = 0 := List.count_eq_zero.2 (h t (List.mem_cons_self ..))
      have hts := ih fun u hu => h u (List.mem_cons_of_mem t hu)
      cases ts with
      | nil =>
          simpa using ht
      | cons u us =>
          rw [join, List.count_append, List.count_append, ht, hts]
          simp only [List.count_singleton_self, List.length_cons]
          omega

end Text

namespace Path

section Climbing

variable {ps : List Text}

theorem climb_of_not_mem (h : ['.', '.'] ∉ ps) (done : List Text) :
    climb done ps = done.reverse ++ ps := by
  induction ps generalizing done with
  | nil =>
      rw [climb, List.append_nil]
  | cons p ps ih =>
      obtain ⟨hp, hps⟩ : ['.', '.'] ≠ p ∧ ['.', '.'] ∉ ps := by simpa using h
      rw [climb, if_neg (Ne.symm hp), ih hps]
      simp

theorem climb_append (h : ['.', '.'] ∉ ps) (done qs : List Text) :
    climb done (qs ++ ps) = climb done qs ++ ps := by
  induction qs generalizing done with
  | nil =>
      rw [List.nil_append, climb_of_not_mem h, climb]
  | cons q qs ih =>
      rw [List.cons_append, climb, climb]
      split
      · exact ih _
      · exact ih _

/-- Names without `..` lead down from where a path leads. -/
theorem parts_resolve_append {q : Path} (hq : q.isAbsolute = false) (h : ['.', '.'] ∉ q.parts)
    (base folder : Path) :
    (resolve base (folder ++ q)).parts = (resolve base folder).parts ++ q.parts := by
  have hstart : (folder ++ q).isAbsolute = folder.isAbsolute := by
    rw [append_of_relative hq]
    rfl
  have hparts : (base ++ (folder ++ q)).parts = (base ++ folder).parts ++ q.parts := by
    cases hfolder : folder.isAbsolute with
    | false =>
        rw [append_of_relative (hstart.trans hfolder), append_of_relative hfolder,
          append_of_relative hq, List.append_assoc]
    | true =>
        rw [append_of_absolute (hstart.trans hfolder), append_of_absolute hfolder,
          append_of_relative hq]
  rw [resolve, resolve, hparts]
  exact climb_append h [] _

end Climbing

/-- Whether a text names something in a folder, and neither the folder nor the one around it. -/
structure IsName (t : Text) : Prop where
  unbroken : '/' ∉ t
  proper : t ≠ [] ∧ t ≠ ['.'] ∧ t ≠ ['.', '.']

section Names

variable {names : List Text}

theorem IsName.isStep {t : Text} (h : IsName t) : IsStep t :=
  ⟨h.unbroken, by simp [isPart, h.proper.1, h.proper.2.1]⟩

theorem pieces_join_names (hne : names ≠ []) (h : ∀ t ∈ names, IsName t) :
    Text.pieces '/' (Text.join ['/'] names) = names :=
  Text.pieces_join hne fun t ht => (h t ht).unbroken

/-- Names with slashes between them are a relative path of just these names. -/
theorem ofText_join_names (h : ∀ t ∈ names, IsName t) :
    ofText (Text.join ['/'] names) = ⟨.relative, names⟩ :=
  ofText_join_steps .relative fun t ht => (h t ht).isStep

end Names

end Path

namespace Site

section Places

/-- The folders of the kinds that have pages. -/
def folders : List Text :=
  ["class".toList, "struct".toList, "enum".toList, "protocol".toList, "extension".toList,
    "global-func".toList, "typealias".toList]

/-- Whether a text can be the name of a page: word characters and hyphens, and never two hyphens in
a row. -/
structure IsPageName (t : Text) : Prop where
  chars : ∀ c ∈ t, Text.isWord c = true ∨ c = '-'
  apart : ¬ ['-', '-'] <:+: t

/-- Where the files of a documentation can be; `ending` is how their names end. -/
inductive Located (ending : Text) : Text → Prop
  | contents : Located ending ("contents".toList ++ ending)
  | landing : Located ending ("doclandingpage".toList ++ ending)
  | page {folder name : Text} :
      folder ∈ folders → IsPageName name → Located ending (folder ++ '/' :: name ++ ending)

/-- The end of the names of all files. -/
def ending (s : Site) : Text :=
  '.' :: s.writer.format.fileExtension

theorem lowerSlug_label_mem_folders (k : DeclKind) : k.label.lowerSlug ∈ folders := by
  have hall : ∀ k ∈ DeclKind.all, k.label.lowerSlug ∈ folders := by decide +kernel
  exact hall k (DeclKind.mem_all k)

theorem isPageName_slug (t : Text) : IsPageName t.slug :=
  ⟨fun _ hc => Text.mem_slug hc, Text.not_infix_slug t⟩

/-- The page of an entity is in the folder of its kind; its name is the slug of the title. -/
theorem pathOf_eq (s : Site) (e : Entity) :
    s.pathOf e = e.kind.label.lowerSlug ++ '/' :: e.title.slug ++ s.ending := by
  simp [pathOf, Entity.link, Profile.link, ending, Entity.kind, Entity.title]

/-- Every file is in one of the places, whatever the titles are. -/
theorem located_of_mem_files {s : Site} {landing : Option Text} {path : Text}
    (h : path ∈ (s.files landing).map SiteFile.path) : Located s.ending path := by
  rw [mem_paths_files] at h
  rcases h with h | rfl | ⟨-, rfl⟩
  · obtain ⟨e, he, rfl⟩ := List.mem_map.1 h
    obtain ⟨k, hk⟩ := Contents.exists_kind_of_mem_topLevelIndex (List.mem_filter.1 he).1
    have hlabel : e.kind.label = k.label := congrArg Kind.label hk
    rw [pathOf_eq, hlabel]
    exact Located.page (lowerSlug_label_mem_folders k) (isPageName_slug e.title)
  · exact Located.contents
  · exact Located.landing

end Places

section Names

theorem isName_of_mem_folders {folder : Text} (h : folder ∈ folders) : Path.IsName folder := by
  have hall : ∀ f ∈ folders, '/' ∉ f ∧ f ≠ [] ∧ f ≠ ['.'] ∧ f ≠ ['.', '.'] := by decide
  exact ⟨(hall folder h).1, (hall folder h).2⟩

/-- What stands before the ending does not matter: the ending alone is longer than two dots. -/
theorem isName_append_ending {t : Text} (h : '/' ∉ t) (s : Site) :
    Path.IsName (t ++ s.ending) := by
  have hending : '/' ∉ s.ending ∧ 2 < s.ending.length := by
    rw [ending]
    cases s.writer.format with
    | markdown => decide
    | html => decide
  have hlength : 2 < (t ++ s.ending).length := by
    rw [List.length_append]
    omega
  constructor
  · simp [h, hending.1]
  · refine ⟨?_, ?_, ?_⟩
    · intro heq
      simp [heq] at hlength
    · intro heq
      simp [heq] at hlength
    · intro heq
      simp [heq] at hlength

theorem IsPageName.slash_not_mem {t : Text} (h : IsPageName t) : '/' ∉ t := by
  intro hmem
  rcases h.chars '/' hmem with hword | hhyphen
  · exact absurd hword (by decide +kernel)
  · exact absurd hhyphen (by decide)

/-- A located path is one name, or two with a slash between them. -/
theorem Located.exists_names {s : Site} {path : Text} (h : Located s.ending path) :
    ∃ names, path = Text.join ['/'] names ∧ names ≠ [] ∧ names.length ≤ 2 ∧
      ∀ t ∈ names, Path.IsName t := by
  cases h with
  | contents =>
      refine ⟨["contents".toList ++ s.ending], rfl, by simp, by simp, ?_⟩
      intro t ht
      rw [List.mem_singleton.1 ht]
      exact isName_append_ending (by decide) s
  | landing =>
      refine ⟨["doclandingpage".toList ++ s.ending], rfl, by simp, by simp, ?_⟩
      intro t ht
      rw [List.mem_singleton.1 ht]
      exact isName_append_ending (by decide) s
  | @page folder name hfolder hname =>
      refine ⟨[folder, name ++ s.ending], by simp [Text.join], by simp, by simp, ?_⟩
      intro t ht
      rcases List.mem_cons.1 ht with rfl | ht
      · exact isName_of_mem_folders hfolder
      · rw [List.mem_singleton.1 ht]
        exact isName_append_ending hname.slash_not_mem s

end Names

/-- What keeps a file inside the folder of the documentation. -/
structure Confined (s : Site) (path : Text) : Prop where
  /-- The file is in one of the places. -/
  located : Located s.ending path
  /-- The path is relative. -/
  relative : path.head? ≠ some '/' ∧ (Path.ofText path).isAbsolute = false
  /-- There is one folder above the file, or none. -/
  slashes : path.count '/' ≤ 1
  /-- No part of the path stays in its folder or leads back up. -/
  parts : ∀ part ∈ path.pieces '/', part ≠ ['.'] ∧ part ≠ ['.', '.']
  /-- From any output folder, the path leads down by its parts. -/
  inside : ∀ base folder : Path,
    (Path.resolve base (folder ++ Path.ofText path)).parts =
      (Path.resolve base folder).parts ++ path.pieces '/'

/-- Every file of a documentation is inside the folder of the documentation, whatever the titles
are. -/
theorem files_confined (s : Site) (landing : Option Text) :
    ∀ path ∈ (s.files landing).map SiteFile.path, Confined s path := by
  intro path hpath
  have hlocated := located_of_mem_files hpath
  obtain ⟨names, rfl, hne, hle, hnames⟩ := hlocated.exists_names
  have hpieces := Path.pieces_join_names hne hnames
  have hpath := Path.ofText_join_names hnames
  constructor
  case located => exact hlocated
  case relative =>
    rw [hpath]
    exact ⟨Path.head?_join_steps fun t ht => (hnames t ht).isStep, rfl⟩
  case slashes =>
    rw [Text.count_join fun t ht => (hnames t ht).unbroken]
    omega
  case parts =>
    intro part hpart
    rw [hpieces] at hpart
    exact (hnames part hpart).proper.2
  case inside =>
    intro base folder
    have hup : ['.', '.'] ∉ names := by
      intro hmem
      exact (hnames _ hmem).proper.2.2 rfl
    rw [hpath, hpieces]
    exact Path.parts_resolve_append rfl hup base folder

/-- A documentation with a title that would lead out of its folder. -/
def wayOut : Site :=
  let intruder : Profile :=
    { title := "../../etc//pässwd\n\x00.".toList, access := .pub, comment := none,
      sourceFile := "S.swift".toList, kind := .decl .globalFunction, attributes := .ofList [],
      docDeclaration := none, parsedDeclaration := none, synthetic := false }
  ⟨(Store.empty {}).add [.node intruder [] []], {}, { format := .markdown, language := [] }⟩

theorem wayOut_confined :
    "global-func/-etc-pässwd-.md".toList ∈ (wayOut.files none).map SiteFile.path ∧
      Confined wayOut "global-func/-etc-pässwd-.md".toList := by
  have hfile : "global-func/-etc-pässwd-.md".toList ∈ (wayOut.files none).map SiteFile.path := by
    rw [mem_paths_files]
    exact Or.inl (by decide +kernel)
  exact ⟨hfile, files_confined wayOut none _ hfile⟩

end Site

end ApiAtlas
