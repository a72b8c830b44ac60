import ApiAtlas.Proofs.Record.Conversion

/-!
# The normal form of records

**Input.** The records of a file, and the title of the entity around them.

**Definitions.** `normalForm` takes out what leaves no entity behind: a record that only groups the
elements of an enumeration is replaced by the normal form of what is nested in it, and a record that
is `LeftOut` goes with everything below it.  `Normal` says that nothing of this kind is left at any
depth.  `Mirrors` relates a forest to a list of records of the same shape: one entity for each
record, in the same order, whose fields are those of the record (`Carries`), with the title of an
entity as the title around what is nested in it.

**Results.**
* `normalForm_eq_self_iff`: the lists that `normalForm` leaves alone are the normal ones.
* `convertAll_normalForm`: records and their normal form become the same entities.
* `Normal.mirrors`: the entities of a normal list mirror it.
* `convertAll_mirrors`: all of this together, with what follows for every entity of a conversion.
-/

namespace ApiAtlas

namespace Record

open Entity

section Defs

/-- Whether a record has no name, an empty one, or no access label that can be read. -/
def LeftOut (f : Fields) : Prop :=
  f.name = none ∨ f.name = some [] ∨ f.accessibility.bind Access.parse? = none

instance (f : Fields) : Decidable (LeftOut f) :=
  inferInstanceAs (Decidable (_ ∨ _ ∨ _))

mutual

/-- What stands for a record in the normal form. -/
def normalize : Record → List Record
  | node f ns =>
      if Kind.parse f.kind = Kind.enumCase then normalForm ns
      else if LeftOut f then []
      else [node f (normalForm ns)]

/-- The records with groups replaced by what is nested in them, and without what is left out. -/
def normalForm : List Record → List Record
  | [] => []
  | r :: rs => normalize r ++ normalForm rs

end

/-- Whether no record of a list, at any depth, is a group or is left out. -/
inductive Normal : List Record → Prop
  | nil : Normal []
  | cons {f : Fields} {ns rest : List Record} :
      Kind.parse f.kind ≠ Kind.enumCase →
      ¬ LeftOut f →
      Normal ns →
      Normal rest →
      Normal (node f ns :: rest)

/-- Whether an entity from the given file, with the given title around it, has the fields of a
record. -/
structure Carries (sourceFile parent : Text) (f : Fields) (p : Profile) : Prop where
  kind_eq : p.kind = Kind.parse f.kind
  access_eq : f.accessibility.bind Access.parse? = some p.access
  comment_eq : p.comment = f.comment
  docDeclaration_eq : p.docDeclaration = f.docDeclaration
  parsedDeclaration_eq : p.parsedDeclaration = f.parsedDeclaration
  mem_attributes : ∀ a, a ∈ p.attributes ↔ a ∈ f.attributes
  sourceFile_eq : p.sourceFile = sourceFile
  /-- The title is the name, at the top or outside the closed set of kinds. -/
  bare_title : parent = [] ∨ p.kind.isDecl = false → f.name = some p.title
  /-- Any other title is the name after the title around it. -/
  full_title : parent ≠ [] → p.kind.isDecl = true →
    ∃ name, f.name = some name ∧ p.title = parent ++ '.' :: name

/-- Whether a forest has one entity for each record, in the same order and at every depth. -/
inductive Mirrors (sourceFile : Text) : Text → List Record → List Entity → Prop
  | nil {parent : Text} : Mirrors sourceFile parent [] []
  | cons {parent : Text} {f : Fields} {ns rest : List Record} {p : Profile} {cs ds : List Entity} :
      Carries sourceFile parent f p →
      Mirrors sourceFile p.title ns cs →
      Mirrors sourceFile parent rest ds →
      Mirrors sourceFile parent (node f ns :: rest) (.node p cs [] :: ds)

end Defs

section Equations

variable {f : Fields} {ns rest : List Record}

@[simp] theorem normalForm_nil : normalForm [] = [] := by
  rw [normalForm]

theorem normalForm_of_group (h : Kind.parse f.kind = Kind.enumCase) :
    normalForm (node f ns :: rest) = normalForm ns ++ normalForm rest := by
  rw [normalForm, normalize, if_pos h]

theorem normalForm_of_leftOut (h : Kind.parse f.kind ≠ Kind.enumCase) (hf : LeftOut f) :
    normalForm (node f ns :: rest) = normalForm rest := by
  rw [normalForm, normalize, if_neg h, if_pos hf, List.nil_append]

theorem normalForm_of_kept (h : Kind.parse f.kind ≠ Kind.enumCase) (hf : ¬ LeftOut f) :
    normalForm (node f ns :: rest) = node f (normalForm ns) :: normalForm rest := by
  rw [normalForm, normalize, if_neg h, if_neg hf, List.singleton_append]

/-- A record has an identity exactly when it is not left out. -/
theorem identity?_eq_none_iff : identity? f = none ↔ LeftOut f := by
  constructor
  · intro h
    by_contra hf
    rw [LeftOut, not_or, not_or] at hf
    obtain ⟨hname, hempty, haccess⟩ := hf
    obtain ⟨name, hname⟩ := Option.ne_none_iff_exists'.1 hname
    obtain ⟨access, haccess⟩ := Option.ne_none_iff_exists'.1 haccess
    have hne : name ≠ [] := by
      rintro rfl
      exact hempty hname
    rw [identity?_eq_some_iff.2 ⟨hname, hne, haccess⟩] at h
    simp at h
  · intro hf
    rw [Option.eq_none_iff_forall_ne_some]
    rintro ⟨name, access⟩ h
    obtain ⟨hname, hne, haccess⟩ := identity?_eq_some_iff.1 h
    rcases hf with hf | hf | hf
    · simp [hname] at hf
    · simp [hname, hne] at hf
    · simp [haccess] at hf

end Equations

section NormalForms

theorem Normal.append {as bs : List Record} (ha : Normal as) (hb : Normal bs) :
    Normal (as ++ bs) := by
  induction ha with
  | nil =>
      exact hb
  | cons h hf hns _ _ ih =>
      exact Normal.cons h hf hns ih

/-- The normal form is normal. -/
theorem normal_normalForm (rs : List Record) : Normal (normalForm rs) := by
  induction rs using records_induction with
  | nil =>
      rw [normalForm_nil]
      exact Normal.nil
  | cons f ns rest ihn ihr =>
      by_cases hgroup : Kind.parse f.kind = Kind.enumCase
      · rw [normalForm_of_group hgroup]
        exact ihn.append ihr
      · by_cases hf : LeftOut f
        · rw [normalForm_of_leftOut hgroup hf]
          exact ihr
        · rw [normalForm_of_kept hgroup hf]
          exact Normal.cons hgroup hf ihn ihr

/-- The lists that `normalForm` leaves alone are the normal ones. -/
theorem normalForm_eq_self_iff {rs : List Record} : normalForm rs = rs ↔ Normal rs := by
  constructor
  · intro h
    rw [← h]
    exact normal_normalForm rs
  · intro h
    induction h with
    | nil =>
        exact normalForm_nil
    | cons hgroup hf _ _ ihn ihr =>
        rw [normalForm_of_kept hgroup hf, ihn, ihr]

end NormalForms

section Conversion

variable {sourceFile parent : Text}

/-- Records and their normal form become the same entities. -/
theorem convertAll_normalForm (rs : List Record) :
    convertAll sourceFile parent (normalForm rs) = convertAll sourceFile parent rs := by
  induction rs using records_induction generalizing parent with
  | nil =>
      rw [normalForm_nil]
  | cons f ns rest ihn ihr =>
      by_cases hgroup : Kind.parse f.kind = Kind.enumCase
      · -- What a group holds is titled with the title around the group.
        rw [normalForm_of_group hgroup, convertAll_append, ihn, ihr, convertAll_of_group hgroup]
      · cases hf : identity? f with
        | none =>
            rw [normalForm_of_leftOut hgroup (identity?_eq_none_iff.1 hf), ihr,
              convertAll_of_unnamed hgroup hf]
        | some identity =>
            obtain ⟨name, access⟩ := identity
            have hkept : ¬ LeftOut f := by
              rw [← identity?_eq_none_iff, hf]
              simp
            rw [normalForm_of_kept hgroup hkept, convertAll_of_named hgroup hf,
              convertAll_of_named hgroup hf, ihn, ihr]

theorem carries_profileIn {f : Fields} {name : Text} {access : Access}
    (hf : identity? f = some (name, access)) :
    Carries sourceFile parent f (profileIn sourceFile parent f name access) := by
  obtain ⟨hname, -, haccess⟩ := identity?_eq_some_iff.1 hf
  refine ⟨rfl, haccess, rfl, rfl, rfl, fun a => NameSet.mem_ofList, rfl, ?_, ?_⟩
  · intro h
    have hbare : ¬ ((Kind.parse f.kind).isDecl && !parent.isEmpty) = true := by
      rcases h with rfl | h
      · simp
      · rw [show (Kind.parse f.kind).isDecl = false from h]
        simp
    rw [hname]
    exact congrArg some (if_neg hbare).symm
  · intro hparent hdecl
    have hfull : ((Kind.parse f.kind).isDecl && !parent.isEmpty) = true := by
      rw [show (Kind.parse f.kind).isDecl = true from hdecl]
      simpa using hparent
    exact ⟨name, hname, if_pos hfull⟩

/-- The entities of a normal list mirror it. -/
theorem Normal.mirrors {rs : List Record} (h : Normal rs) :
    Mirrors sourceFile parent rs (convertAll sourceFile parent rs) := by
  induction h generalizing parent with
  | nil =>
      rw [convertAll_nil]
      exact Mirrors.nil
  | @cons f ns rest hgroup hf _ _ ihn ihr =>
      have hidentity := Option.ne_none_iff_exists'.1 (mt identity?_eq_none_iff.1 hf)
      obtain ⟨⟨name, access⟩, hidentity⟩ := hidentity
      rw [convertAll_of_named hgroup hidentity]
      exact Mirrors.cons (carries_profileIn hidentity) ihn ihr

theorem Carries.title_ne_nil {f : Fields} {p : Profile} (h : Carries sourceFile parent f p)
    (hf : ¬ LeftOut f) : p.title ≠ [] := by
  intro ht
  by_cases hfull : parent ≠ [] ∧ p.kind.isDecl = true
  · obtain ⟨name, -, htitle⟩ := h.full_title hfull.1 hfull.2
    rw [htitle] at ht
    simp at ht
  · have hbare : parent = [] ∨ p.kind.isDecl = false := by
      by_cases hparent : parent = []
      · exact Or.inl hparent
      · exact Or.inr (by simpa [hparent] using hfull)
    have hname := h.bare_title hbare
    rw [ht] at hname
    exact hf (Or.inr (Or.inl hname))

/-- No entity that mirrors a normal list is a group or without a title. -/
theorem Mirrors.mem_reachAll {rs : List Record} {ds : List Entity}
    (h : Mirrors sourceFile parent rs ds) (hrs : Normal rs) :
    ∀ e ∈ reachAll ds, e.kind ≠ Kind.enumCase ∧ e.title ≠ [] := by
  induction h with
  | nil =>
      simp
  | cons hp _ _ ihn ihr =>
      obtain _ | ⟨hgroup, hf, hns, hrest⟩ := hrs
      intro e he
      rcases mem_reachAll_node.1 he with rfl | he | he | he
      · refine ⟨?_, hp.title_ne_nil hf⟩
        rw [Entity.kind, profile_node, hp.kind_eq]
        exact hgroup
      · exact ihn hns e he
      · simp at he
      · exact ihr hrest e he

/-- Conversion depends on the normal form of the records only, and mirrors it.  So no entity of a
conversion, at any depth, is a group, has no title, has extensions or was made up. -/
theorem convertAll_mirrors (sourceFile parent : Text) (rs : List Record) :
    Normal (normalForm rs) ∧
      (normalForm rs = rs ↔ Normal rs) ∧
      convertAll sourceFile parent rs = convertAll sourceFile parent (normalForm rs) ∧
      (Normal rs → Mirrors sourceFile parent rs (convertAll sourceFile parent rs)) ∧
      ∀ e ∈ reachAll (convertAll sourceFile parent rs),
        e.kind ≠ Kind.enumCase ∧ e.title ≠ [] ∧ e.extensions = [] ∧
          e.profile.synthetic = false := by
  have hnormal := normal_normalForm rs
  have hconvert : convertAll sourceFile parent (normalForm rs) = convertAll sourceFile parent rs :=
    convertAll_normalForm rs
  refine ⟨hnormal, normalForm_eq_self_iff, hconvert.symm, Normal.mirrors, ?_⟩
  intro e he
  obtain ⟨hext, hsynthetic⟩ := convertAll_fresh sourceFile parent rs e he
  rw [← hconvert] at he
  obtain ⟨hkind, htitle⟩ := hnormal.mirrors.mem_reachAll hnormal e he
  exact ⟨hkind, htitle, hext, hsynthetic⟩

end Conversion

end Record

end ApiAtlas
