import ApiAtlas.Proofs.Forest
import ApiAtlas.Record.Convert

/-!
# What conversion makes of records

**Input.** The records of a file, and the title of the entity around them.

**Definitions.** `Fresh` says of an entity that it was not made up and has no extensions yet.
`TypesInDecls` says of a forest that no type stands inside an entity outside the closed set of
declarations.

**Results.**
* `records_induction`: one induction over lists of records.
* `convertAll_of_group`, `convertAll_of_unnamed`, `convertAll_of_named`: the three things that can
  become of the first record of a list.
* `convertAll_fresh`: every entity of a conversion is fresh, at every depth.
* `length_lt_of_mem_convertAll`: under `TypesInDecls` the title of a type is longer than the title
  around it.
-/

namespace ApiAtlas

namespace Record

open Entity

section Induction

/-- Induction over lists of records: the first record is opened together with the rest. -/
theorem records_induction {Q : List Record → Prop}
    (nil : Q [])
    (cons : ∀ f ns rest, Q ns → Q rest → Q (node f ns :: rest)) :
    ∀ rs, Q rs
  | [] => nil
  | node f ns :: rest =>
      cons f ns rest (records_induction nil cons ns) (records_induction nil cons rest)

variable {sourceFile parent : Text} {f : Fields} {ns rest : List Record}

theorem convertAll_of_group (h : Kind.parse f.kind = Kind.enumCase) :
    convertAll sourceFile parent (node f ns :: rest) =
      convertAll sourceFile parent ns ++ convertAll sourceFile parent rest := by
  rw [convertAll_cons, convert, if_pos h]

theorem convertAll_of_unnamed (h : Kind.parse f.kind ≠ Kind.enumCase) (hf : identity? f = none) :
    convertAll sourceFile parent (node f ns :: rest) = convertAll sourceFile parent rest := by
  rw [convertAll_cons, convert, if_neg h, hf]
  rfl

theorem convertAll_of_named {name : Text} {access : Access}
    (h : Kind.parse f.kind ≠ Kind.enumCase) (hf : identity? f = some (name, access)) :
    convertAll sourceFile parent (node f ns :: rest) =
      .node (profileIn sourceFile parent f name access)
        (convertAll sourceFile (titleIn parent (Kind.parse f.kind) name) ns) [] ::
        convertAll sourceFile parent rest := by
  rw [convertAll_cons, convert, if_neg h, hf]
  rfl

end Induction

section Identity

/-- A record has an identity when it has a name and an access label that can be read. -/
theorem identity?_eq_some_iff {f : Fields} {name : Text} {access : Access} :
    identity? f = some (name, access) ↔
      f.name = some name ∧ name ≠ [] ∧ f.accessibility.bind Access.parse? = some access := by
  rw [identity?]
  split
  next c t a hname haccess =>
      rw [hname, haccess]
      constructor
      · intro h
        obtain ⟨rfl, rfl⟩ := Prod.mk.inj (Option.some.inj h)
        exact ⟨rfl, by simp, rfl⟩
      · rintro ⟨hn, -, ha⟩
        rw [Option.some.inj hn, Option.some.inj ha]
  next hno =>
      constructor
      · intro h
        simp at h
      · rintro ⟨hname, hne, haccess⟩
        obtain ⟨c, t, rfl⟩ := List.exists_cons_of_ne_nil hne
        exact absurd haccess (hno c t access hname)

end Identity

section Fresh

/-- Whether an entity was not made up and has no extensions. -/
def Fresh (e : Entity) : Prop :=
  e.extensions = [] ∧ e.profile.synthetic = false

/-- Every entity of a conversion is fresh, at every depth. -/
theorem convertAll_fresh (sourceFile parent : Text) (rs : List Record) :
    ∀ e ∈ reachAll (convertAll sourceFile parent rs), Fresh e := by
  induction rs using records_induction generalizing parent with
  | nil =>
      simp
  | cons f ns rest ihn ihr =>
      intro e he
      by_cases hgroup : Kind.parse f.kind = Kind.enumCase
      · rw [convertAll_of_group hgroup, reachAll_append, List.mem_append] at he
        rcases he with he | he
        · exact ihn parent e he
        · exact ihr parent e he
      · cases hf : identity? f with
        | none =>
            rw [convertAll_of_unnamed hgroup hf] at he
            exact ihr parent e he
        | some identity =>
            obtain ⟨name, access⟩ := identity
            rw [convertAll_of_named hgroup hf, mem_reachAll_node] at he
            rcases he with rfl | he | he | he
            · exact ⟨rfl, rfl⟩
            · exact ihn _ e he
            · simp at he
            · exact ihr parent e he

end Fresh

section Titles

/-- Whether no type stands inside an entity outside the closed set of declarations. -/
def TypesInDecls (docs : List Entity) : Prop :=
  ∀ e ∈ flatten docs, e.kind.isDecl = false → ∀ h ∈ flatten e.children, h.extendable = false

instance (docs : List Entity) : Decidable (TypesInDecls docs) :=
  inferInstanceAs (Decidable (∀ e ∈ flatten docs, _ → ∀ h ∈ flatten e.children, _))

theorem titleIn_ne_nil {f : Fields} {name : Text} {access : Access}
    (hf : identity? f = some (name, access)) (parent : Text) (kind : Kind) :
    titleIn parent kind name ≠ [] := by
  obtain ⟨-, hname, -⟩ := identity?_eq_some_iff.1 hf
  rw [titleIn]
  split
  · simp
  · exact hname

theorem length_titleIn {parent name : Text} {kind : Kind} (hp : parent ≠ [])
    (hk : kind.isDecl = true) : parent.length < (titleIn parent kind name).length := by
  have hnonempty : (kind.isDecl && !parent.isEmpty) = true := by
    simp [hk, hp]
  rw [titleIn, if_pos hnonempty, List.length_append, List.length_cons]
  omega

/-- When no type stands inside an entity outside the closed set, the title of a type is longer than
the title around it. -/
theorem length_lt_of_mem_convertAll {sourceFile parent : Text} {rs : List Record}
    (hp : parent ≠ []) (hrs : TypesInDecls (convertAll sourceFile parent rs)) {h : Entity}
    (hh : h ∈ flatten (convertAll sourceFile parent rs)) (hext : h.extendable = true) :
    parent.length < h.title.length := by
  induction rs using records_induction generalizing parent with
  | nil =>
      simp at hh
  | cons f ns rest ihn ihr =>
      by_cases hgroup : Kind.parse f.kind = Kind.enumCase
      · rw [convertAll_of_group hgroup] at hrs hh
        rw [flatten_append, List.mem_append] at hh
        rcases hh with hh | hh
        · exact ihn hp (fun e he => hrs e (by simp [he])) hh
        · exact ihr hp (fun e he => hrs e (by simp [he])) hh
      · cases hf : identity? f with
        | none =>
            rw [convertAll_of_unnamed hgroup hf] at hrs hh
            exact ihr hp hrs hh
        | some identity =>
            obtain ⟨name, access⟩ := identity
            rw [convertAll_of_named hgroup hf] at hrs hh
            rw [mem_flatten_node] at hh
            rcases hh with rfl | hh | hh
            · exact length_titleIn hp (Kind.isDecl_of_extendable hext)
            · cases hdecl : (Kind.parse f.kind).isDecl with
              | true =>
                  have hlong : parent.length < (titleIn parent (Kind.parse f.kind) name).length :=
                    length_titleIn hp hdecl
                  have hbelow := ihn (titleIn_ne_nil hf parent _)
                    (fun e he => hrs e (mem_flatten_node.2 (Or.inr (Or.inl he)))) hh
                  omega
              | false =>
                  -- Below such an entity titles start again, but no type stands there.
                  have hnone := hrs _ (mem_flatten_node.2 (Or.inl rfl)) hdecl h hh
                  rw [hnone] at hext
                  simp at hext
            · exact ihr hp (fun e he => hrs e (mem_flatten_node.2 (Or.inr (Or.inr he)))) hh

/-- An entity of a conversion holds the conversion of the records nested in its own record. -/
theorem exists_nested_of_mem_convertAll {sourceFile parent : Text} {rs : List Record}
    {d : Entity} (hd : d ∈ convertAll sourceFile parent rs) :
    d.title ≠ [] ∧ ∃ ns, d.children = convertAll sourceFile d.title ns := by
  induction rs using records_induction generalizing parent with
  | nil =>
      simp at hd
  | cons f ns rest ihn ihr =>
      by_cases hgroup : Kind.parse f.kind = Kind.enumCase
      · rw [convertAll_of_group hgroup, List.mem_append] at hd
        rcases hd with hd | hd
        · exact ihn hd
        · exact ihr hd
      · cases hf : identity? f with
        | none =>
            rw [convertAll_of_unnamed hgroup hf] at hd
            exact ihr hd
        | some identity =>
            obtain ⟨name, access⟩ := identity
            rw [convertAll_of_named hgroup hf, List.mem_cons] at hd
            rcases hd with rfl | hd
            · exact ⟨titleIn_ne_nil hf parent _, ns, rfl⟩
            · exact ihr hd

end Titles

section Sample

/-- A public record with a kind, a name and the records nested in it. -/
def ofPublic (kind name : String) (nested : List Record) : Record :=
  .node
    { kind := kind.toList
      name := some name.toList
      accessibility := some "public".toList
      comment := none
      attributes := []
      docDeclaration := none
      parsedDeclaration := none }
    nested

end Sample

end Record

namespace Source

open Entity

variable {root : Option Path} {sources : List Source}

theorem entitiesOf_fresh : ∀ e ∈ reachAll (entitiesOf root sources), Record.Fresh e := by
  intro e he
  obtain ⟨d, hd, hed⟩ := mem_reachAll.1 he
  obtain ⟨s, -, hds⟩ := List.mem_flatMap.1 hd
  exact Record.convertAll_fresh _ _ _ e (mem_reachAll.2 ⟨d, hds, hed⟩)

/-- The title of a type nested in an entry is longer than the title of the entry. -/
theorem length_lt_of_mem_children (htypes : Record.TypesInDecls (entitiesOf root sources))
    {d h : Entity} (hd : d ∈ entitiesOf root sources) (hh : h ∈ flatten d.children)
    (hext : h.extendable = true) : d.title.length < h.title.length := by
  obtain ⟨s, -, hds⟩ := List.mem_flatMap.1 hd
  obtain ⟨htitle, ns, hchildren⟩ := Record.exists_nested_of_mem_convertAll hds
  rw [hchildren] at hh
  refine Record.length_lt_of_mem_convertAll htitle ?_ hh hext
  intro e he
  apply htypes
  rw [← hchildren] at he
  exact mem_flatten_of_mem_children hd he

end Source

end ApiAtlas
