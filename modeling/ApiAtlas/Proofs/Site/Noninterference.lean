import ApiAtlas.Proofs.Contents.Rows
import ApiAtlas.Proofs.Site.Agreement

/-!
# What a documentation gives away

**Input.** Two stores, with one configuration and one writer, which may convert documents to HTML
by any function of their text.

**Definitions.** The `View` of an entity is what a reader at the level of the configuration may
learn of it: its own fields, and those of the members and extensions at that level.  `SameOutput`
says that two documentations cannot be told apart, except by the numbers in the table of contents.

**Results.**
* `markdown_congr`: a page depends on the view of its entity only.
* `files_eq`: the common files stand after the pages.
* `exists_listed`: a table of contents is the text of its rows under increasing numbers.
* `sameOutput_of_views`: stores with the same views have the same output.
-/

namespace ApiAtlas

/-- What a page says of a member. -/
structure MemberView where
  title : Text
  label : Text
  declaration : Text
  comment : Option Text
deriving DecidableEq

/-- What a page says of an extension. -/
structure ExtensionView where
  title : Text
  sourceFile : Text
  declaration : Text
  comment : Option Text
  members : List MemberView
deriving DecidableEq

/-- What a documentation says of an entity. -/
structure View where
  title : Text
  kind : Kind
  access : Access
  declaration : Text
  comment : Option Text
  members : List MemberView
  extensions : List ExtensionView
deriving DecidableEq

namespace Entity

/-- An entity as a member. -/
def memberView (e : Entity) : MemberView :=
  ⟨e.title, e.kind.label, e.profile.declaration, e.profile.comment⟩

/-- The members of an entity that are visible at a level. -/
def memberViews (minimum : Access) (e : Entity) : List MemberView :=
  (e.visibleChildren minimum).map memberView

/-- An entity as an extension. -/
def extensionView (minimum : Access) (e : Entity) : ExtensionView :=
  ⟨e.title, e.profile.sourceFile, e.profile.declaration, e.profile.comment, e.memberViews minimum⟩

/-- An entity as it is seen at a level. -/
def view (minimum : Access) (e : Entity) : View :=
  ⟨e.title, e.kind, e.access, e.profile.declaration, e.profile.comment, e.memberViews minimum,
    (e.visibleExtensions minimum).map (extensionView minimum)⟩

end Entity

/-- What depends on a view is the same for lists with the same views. -/
theorem map_eq_of_map_eq {α β γ : Type} {f : α → β} {g : α → γ}
    (hfg : ∀ a b, f a = f b → g a = g b) {as bs : List α} (h : as.map f = bs.map f) :
    as.map g = bs.map g := by
  induction as generalizing bs with
  | nil =>
      rw [List.map_nil, eq_comm, List.map_eq_nil_iff] at h
      rw [h]
  | cons a as ih =>
      cases bs with
      | nil =>
          simp at h
      | cons b bs =>
          obtain ⟨hhead, htail⟩ := List.cons.inj h
          rw [List.map_cons, List.map_cons, hfg a b hhead, ih htail]

namespace Page

open Markup

variable {language : Text} {minimum : Access} {a b : Entity}

theorem member_congr (a b : Entity) (h : a.memberView = b.memberView) :
    member language a = member language b := by
  obtain ⟨htitle, hlabel, hdeclaration, hcomment⟩ := MemberView.mk.inj h
  rw [member, member, declaration, declaration, Profile.documentation, Profile.documentation,
    htitle, hlabel, hdeclaration, hcomment]

theorem members_congr (h : a.memberViews minimum = b.memberViews minimum) :
    members language minimum a = members language minimum b :=
  map_eq_of_map_eq member_congr h

theorem extension_congr (a b : Entity) (h : a.extensionView minimum = b.extensionView minimum) :
    extension language minimum a = extension language minimum b := by
  obtain ⟨htitle, hfile, hdeclaration, hcomment, hmembers⟩ := ExtensionView.mk.inj h
  rw [extension, extension, extensionTitle, extensionTitle, declaration, declaration, htitle, hfile,
    hdeclaration, hcomment, members_congr hmembers]

/-- A page depends on the view of its entity only. -/
theorem markdown_congr (h : a.view minimum = b.view minimum) :
    markdown language minimum a = markdown language minimum b := by
  obtain ⟨htitle, hkind, -, hdeclaration, hcomment, hmembers, hextensions⟩ := View.mk.inj h
  have hextended : extensions language minimum a = extensions language minimum b := by
    rw [extensions, extensions, List.flatMap_def, List.flatMap_def,
      map_eq_of_map_eq extension_congr hextensions]
  rw [markdown, markdown, parts, parts, declaration, declaration, Profile.documentation,
    Profile.documentation, htitle, hkind, hdeclaration, hcomment, members_congr hmembers, hextended]

end Page

namespace Site

section Defs

/-- Whether a table of contents is the text of rows under increasing numbers. -/
structure Listed (s : Site) (layout : Layout) (rows : List Contents.Row) (numbers : List Nat) :
    Prop where
  /-- The rows are those of the visible entities in their order. -/
  rows_eq : rows = (Contents.byKind s.entities).map (Contents.rowOf layout s.writer.format)
  /-- Every row has a number. -/
  length_eq : numbers.length = rows.length
  /-- The numbers increase. -/
  increasing : numbers.Pairwise (· < ·)
  /-- A number stands at the line of its row and at the link of its row. -/
  listing : Contents.markdown layout s.writer.format s.config.minimumAccess s.store.topLevelIndex =
    Contents.text rows numbers
  /-- The table of contents is this text in the format of the pages. -/
  contents : s.contents layout = s.writer.convert (Contents.text rows numbers)

/-- Whether two documentations cannot be told apart, except by the numbers in the table of
contents. -/
structure SameOutput (s t : Site) : Prop where
  /-- The search indices are the same. -/
  lookup : s.lookup = t.lookup
  /-- The files have the same paths in the same order. -/
  paths : ∀ landing, (s.files landing).map SiteFile.path = (t.files landing).map SiteFile.path
  /-- The files apart from the table of contents are the same. -/
  files : ∀ landing,
    ((s.files landing).filter fun f => f.path ≠ s.commonPath "contents") =
      (t.files landing).filter fun f => f.path ≠ t.commonPath "contents"
  /-- The tables of contents have the same rows. -/
  listings : ∀ layout, ∃ rows numbers numbers',
    Listed s layout rows numbers ∧ Listed t layout rows numbers'

end Defs

section Parts

variable (s : Site)

theorem put_of_new {files : List SiteFile} {f : SiteFile}
    (h : f.path ∉ files.map SiteFile.path) : put files f = files ++ [f] := by
  rw [put, if_neg]
  simpa using h

/-- The common files stand after the pages, because no page is in their place. -/
theorem files_eq (landing : Option Text) :
    s.files landing = putAll [] (s.entities.map s.pageFile) ++ s.commonFiles landing := by
  have hpages : ∀ path, path ∈ (putAll [] (s.entities.map s.pageFile)).map SiteFile.path →
      ∃ e, path = s.pathOf e := by
    intro path h
    rw [mem_paths_putAll] at h
    rcases h with h | h
    · simp at h
    · rw [List.map_map] at h
      obtain ⟨e, -, rfl⟩ := List.mem_map.1 h
      exact ⟨e, rfl⟩
  have hcontents : s.commonPath "contents" ∉
      (putAll [] (s.entities.map s.pageFile)).map SiteFile.path := by
    intro h
    obtain ⟨e, he⟩ := hpages _ h
    exact pathOf_ne_contents s e he.symm
  have hlanding : s.commonPath "doclandingpage" ∉
      (putAll [] (s.entities.map s.pageFile)).map SiteFile.path := by
    intro h
    obtain ⟨e, he⟩ := hpages _ h
    exact pathOf_ne_landing s e he.symm
  rw [files, commonFiles_eq]
  cases landing with
  | none =>
      exact put_of_new hcontents
  | some t =>
      have hfirst : put (putAll [] (s.entities.map s.pageFile))
            ⟨s.commonPath "contents", s.contents .multiPage⟩ =
          putAll [] (s.entities.map s.pageFile) ++
            [⟨s.commonPath "contents", s.contents .multiPage⟩] :=
        put_of_new hcontents
      change put (put _ _) _ = _
      rw [hfirst, put_of_new]
      · simp
      · simpa [(contents_ne_landing s).symm] using hlanding

theorem exists_listed (layout : Layout) :
    ∃ numbers, Listed s layout
      ((Contents.byKind s.entities).map (Contents.rowOf layout s.writer.format)) numbers := by
  have hrows : (Contents.entries s.config.minimumAccess s.store.topLevelIndex).map
        (fun entry => Contents.rowOf layout s.writer.format entry.1) =
      (Contents.byKind s.entities).map (Contents.rowOf layout s.writer.format) := by
    rw [entities, ← Contents.map_fst_entries, List.map_map]
    rfl
  have hlisting := Contents.markdown_eq_text layout s.writer.format s.config.minimumAccess
    s.store.topLevelIndex
  rw [hrows] at hlisting
  refine ⟨_, rfl, ?_, Contents.pairwise_numbers s.config.minimumAccess s.store.topLevelIndex,
    hlisting, congrArg s.writer.convert hlisting⟩
  rw [← hrows, List.length_map, List.length_map]

end Parts

section Views

variable (config : Config) (w : Writer) {a b : Store}

/-- Sorting depends on the views only. -/
theorem map_view_byKind {as bs : List Entity} {minimum : Access}
    (h : as.map (Entity.view minimum) = bs.map (Entity.view minimum)) :
    (Contents.byKind as).map (Entity.view minimum) =
      (Contents.byKind bs).map (Entity.view minimum) := by
  have hsort : ∀ es : List Entity, (Contents.byKind es).map (Entity.view minimum) =
      (es.map (Entity.view minimum)).mergeSort fun u v => u.kind.label.atMost v.kind.label := by
    intro es
    exact List.map_mergeSort fun _ _ _ _ => rfl
  rw [hsort, hsort, h]

theorem link_congr {minimum : Access} (layout : Layout) (format : Format) {x y : Entity}
    (h : x.view minimum = y.view minimum) : x.link layout format = y.link layout format := by
  obtain ⟨htitle, hkind, -⟩ := View.mk.inj h
  change x.profile.title = y.profile.title at htitle
  change x.profile.kind = y.profile.kind at hkind
  unfold Entity.link Profile.link
  rw [htitle, hkind]

theorem lookupEntry_congr {minimum : Access} (x y : Entity)
    (h : x.view minimum = y.view minimum) : lookupEntry x = lookupEntry y := by
  obtain ⟨htitle, hkind, -⟩ := View.mk.inj h
  rw [lookupEntry, lookupEntry, htitle, hkind, link_congr _ _ h]

theorem rowOf_congr {minimum : Access} (layout : Layout) (format : Format) (x y : Entity)
    (h : x.view minimum = y.view minimum) :
    Contents.rowOf layout format x = Contents.rowOf layout format y := by
  obtain ⟨htitle, hkind, -⟩ := View.mk.inj h
  rw [Contents.rowOf, Contents.rowOf, Contents.groupTitle, Contents.groupTitle, htitle, hkind,
    link_congr _ _ h]

theorem pageFile_congr (x y : Entity)
    (h : x.view config.minimumAccess = y.view config.minimumAccess) :
    (Site.mk a config w).pageFile x = (Site.mk b config w).pageFile y := by
  rw [pageFile, pageFile, pathOf, pathOf, page, page, Writer.page, Writer.page, link_congr _ _ h,
    Page.markdown_congr h]

/-- Stores with the same views have the same output. -/
theorem sameOutput_of_views
    (h : (Site.mk a config w).entities.map (Entity.view config.minimumAccess) =
      (Site.mk b config w).entities.map (Entity.view config.minimumAccess)) :
    SameOutput ⟨a, config, w⟩ ⟨b, config, w⟩ := by
  have hsorted := map_view_byKind h
  have hpages : (Site.mk a config w).entities.map (Site.mk a config w).pageFile =
      (Site.mk b config w).entities.map (Site.mk b config w).pageFile :=
    map_eq_of_map_eq (pageFile_congr config w) h
  constructor
  case lookup =>
    rw [lookup_eq, lookup_eq]
    exact map_eq_of_map_eq lookupEntry_congr hsorted
  case paths =>
    intro landing
    rw [files_eq, files_eq, hpages, List.map_append, List.map_append]
    rfl
  case files =>
    intro landing
    rw [files_eq, files_eq, hpages, List.filter_append, List.filter_append, commonFiles_eq,
      commonFiles_eq, List.filter_cons_of_neg (by simp), List.filter_cons_of_neg (by simp)]
    rfl
  case listings =>
    intro layout
    obtain ⟨numbers, hnumbers⟩ := exists_listed (Site.mk a config w) layout
    obtain ⟨numbers', hnumbers'⟩ := exists_listed (Site.mk b config w) layout
    refine ⟨_, numbers, numbers', hnumbers, ?_⟩
    have hrows := map_eq_of_map_eq (rowOf_congr layout w.format) hsorted
    rw [hrows]
    exact hnumbers'

end Views

section Sample

/-- A declaration of the closed set, with what stands in it and what is attached to it. -/
def declared (kind : DeclKind) (title : String) (access : Access)
    (children extensions : List Entity) : Entity :=
  .node
    { title := title.toList, access := access, comment := none, sourceFile := "S.swift".toList,
      kind := .decl kind, attributes := .ofList [], docDeclaration := none,
      parsedDeclaration := none, synthetic := false }
    children extensions

/-- A hidden type, and a type with a hidden member and two extensions: one of them is hidden, and
the other one has a hidden member. -/
def frank : Store :=
  (Store.empty {}).add
    [declared .classType "Secret" .priv [] [],
      declared .classType "Shape" .pub
        [declared .structType "Shape.Side" .pub [] [], declared .structType "Shape.Cache" .priv [] []]
        [declared .extensionOf "Shape" .pub [declared .enumType "Shape.Key" .filePriv [] []] [],
          declared .extensionOf "Shape" .priv [] []]]

/-- The same without anything hidden. -/
def discreet : Store :=
  (Store.empty {}).add
    [declared .classType "Shape" .pub [declared .structType "Shape.Side" .pub [] []]
      [declared .extensionOf "Shape" .pub [] []]]

/-- A writer of Markdown. -/
def plainWriter : Writer :=
  { format := .markdown, language := [] }

theorem frank_discreet_sameOutput :
    frank.docs.length ≠ discreet.docs.length ∧
      (Site.mk frank {} plainWriter).entities.map (Entity.view Access.internal) =
        (Site.mk discreet {} plainWriter).entities.map (Entity.view Access.internal) ∧
      SameOutput ⟨frank, {}, plainWriter⟩ ⟨discreet, {}, plainWriter⟩ := by
  have hviews : (Site.mk frank {} plainWriter).entities.map (Entity.view Access.internal) =
      (Site.mk discreet {} plainWriter).entities.map (Entity.view Access.internal) := by
    decide +kernel
  exact ⟨by decide, hviews, sameOutput_of_views {} plainWriter hviews⟩

end Sample

end Site

end ApiAtlas
