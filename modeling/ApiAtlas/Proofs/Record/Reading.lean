import ApiAtlas.Proofs.Record.Refusal

/-!
# What is read, faults aside

**Input.** A payload value, whatever it holds.

**Definitions.** `Checked.value?` and `Except.toOption` forget why something is refused.
`Entries.field?` is the value under the first of several spellings, without the spelling.

**Results.** Without the faults, reading is one operation after another on the parts: a list of
records is read when all its records are (`value?_checkAll`, `value?_checkEach`), a payload when all
its files are (`toOption_ofEntries`, `toOption_ofObjects`), and a record depends on the values of
its fields only (`value?_checkFields`, `value?_pick`).
-/

namespace ApiAtlas

namespace Checked

variable {α β : Type}

/-- What a value means, when it has no faults. -/
def value? : Checked α → Option α
  | ok a => some a
  | faulty _ => none

@[simp] theorem value?_under (step : Text) (c : Checked α) : (c.under step).value? = c.value? := by
  cases c with
  | ok a => rfl
  | faulty fs => rfl

@[simp] theorem value?_map (f : α → β) (c : Checked α) : (c.map f).value? = c.value?.map f := by
  cases c with
  | ok a => rfl
  | faulty fs => rfl

@[simp] theorem value?_functorMap (f : α → β) (c : Checked α) :
    (f <$> c).value? = c.value?.map f :=
  value?_map f c

/-- Two checks side by side are sound when both are. -/
@[simp] theorem value?_seq (f : Checked (α → β)) (c : Checked α) :
    (f <*> c).value? = f.value?.bind fun g => c.value?.map g := by
  change (f.ap c).value? = _
  cases f with
  | ok g =>
      cases c with
      | ok a => rfl
      | faulty fs => rfl
  | faulty fs =>
      cases c with
      | ok a => rfl
      | faulty gs => rfl

end Checked

namespace Entries

/-- The value under the first of several keys that is there. -/
def field? (es : Entries) (keys : List Text) : Option Value :=
  (es.first? keys).map Prod.snd

end Entries

namespace Record

section Lists

variable (opened : List (Nat × Nat))

/-- A list of records is read when all its records are. -/
theorem value?_checkAll (position : Nat) (vs : List Value) :
    (checkAll opened position vs).value? = vs.mapM fun v => (checkIn opened v).value? := by
  induction vs generalizing position with
  | nil =>
      rw [checkAll, List.mapM_nil]
      rfl
  | cons v vs ih =>
      rw [checkAll, Checked.value?_seq, Checked.value?_functorMap, Checked.value?_under, ih,
        List.mapM_cons]
      cases (checkIn opened v).value? with
      | none => rfl
      | some r =>
          cases vs.mapM fun v => (checkIn opened v).value? with
          | none => rfl
          | some rs => rfl

theorem checkNested_of_content {w : Value} {items : List Value} (h : w.content = .list items) :
    checkNested opened w = checkAll opened 0 items := by
  fun_induction Value.content w with
  | case1 mark v ih =>
      rw [checkNested]
      exact ih h
  | case2 w hshared =>
      rw [h, checkNested]

end Lists

section Fields

variable (es : Entries)

theorem value?_checkKind :
    (checkKind es).value? = (es.field? kindKeys).bind fun v => (checkText v).value? := by
  rw [checkKind, Entries.field?]
  cases es.first? kindKeys with
  | none => rfl
  | some kv => exact Checked.value?_under ..

theorem value?_checkOptional (keys : List Text) :
    (checkOptional es keys).value? =
      (es.field? keys).elim (some none) fun v => (checkOptionalText v).value? := by
  rw [checkOptional, Entries.field?]
  cases es.first? keys with
  | none => rfl
  | some kv => exact Checked.value?_under ..

theorem value?_checkAttributes :
    (checkAttributes es).value? =
      (es.field? attributeKeys).elim (some []) fun v => (attributeNames v).value? := by
  rw [checkAttributes, Entries.field?]
  cases es.first? attributeKeys with
  | none => rfl
  | some kv => exact Checked.value?_under ..

theorem value?_pick (opened : List (Nat × Nat)) (keys : List Text) :
    (pick keys (checkEntries opened es)).value? =
      ((es.field? keys).map fun v => (checkNested opened v).value?).getD (some []) := by
  rw [pick_checkEntries, Entries.field?]
  cases es.first? keys with
  | none => rfl
  | some kv => exact Checked.value?_under ..

/-- The accepted spellings of each field of a record but the nested records. -/
def ownSpellings : List (List Text) :=
  [kindKeys, nameKeys, accessKeys, commentKeys, attributeKeys, docDeclarationKeys,
    parsedDeclarationKeys]

variable {es} {es' : Entries}

/-- The fields of a record depend on their values only, not on how they are spelled. -/
theorem value?_checkFields (h : ∀ keys ∈ ownSpellings, es.field? keys = es'.field? keys) :
    (checkFields es).value? = (checkFields es').value? := by
  simp only [ownSpellings, List.mem_cons, List.not_mem_nil, or_false, forall_eq_or_imp,
    forall_eq] at h
  obtain ⟨hkind, hname, haccess, hcomment, hattributes, hdoc, hparsed⟩ := h
  simp only [checkFields, Checked.value?_seq, Checked.value?_functorMap, value?_checkKind,
    value?_checkOptional, value?_checkAttributes, hkind, hname, haccess, hcomment, hattributes,
    hdoc, hparsed]

theorem value?_checkIn_object {opened : List (Nat × Nat)}
    (hfields : (checkFields es).value? = (checkFields es').value?)
    (hnested : (pick nestedKeys (checkEntries opened es)).value? =
      (pick nestedKeys (checkEntries opened es')).value?) :
    (checkIn opened (.object es)).value? = (checkIn opened (.object es')).value? := by
  rw [checkIn, checkIn, Checked.value?_seq, Checked.value?_seq, Checked.value?_functorMap,
    Checked.value?_functorMap, hfields, hnested]

end Fields

end Record

namespace Source

section Files

/-- A list of records is read when all its records are. -/
theorem value?_checkEach (vs : List Value) :
    (checkEach vs).value? = vs.mapM fun v => (Record.checkIn [] v).value? := by
  induction vs with
  | nil =>
      rw [checkEach, List.mapM_nil]
      rfl
  | cons v vs ih =>
      rw [checkEach, List.mapM_cons, Record.check]
      cases Record.checkIn [] v with
      | faulty fs => rfl
      | ok r =>
          dsimp only
          rw [Checked.value?_map, ih]
          cases vs.mapM fun v => (Record.checkIn [] v).value? with
          | none => rfl
          | some rs => rfl

theorem checkFile_of_list {file : Value} {items : List Value} (h : file.content = .list items) :
    checkFile file = checkEach items := by
  rw [checkFile, h]

theorem checkFile_of_object {file : Value} {es : Entries} (h : file.content = .object es) :
    checkFile file = Record.pick recordKeys (Record.checkEntries [] es) := by
  rw [checkFile, h]

theorem toOption_map {ε α β : Type} (f : α → β) (c : Except ε α) :
    (c.map f).toOption = c.toOption.map f := by
  cases c with
  | error e => rfl
  | ok a => rfl

/-- The source file of an entry, faults aside. -/
def fileOf? (entry : Value × Value) : Option Source :=
  if entry.1.isShowable [] then (checkFile entry.2).value?.map (Source.mk entry.1.shown) else none

/-- The files of an object are read when each of them is. -/
theorem toOption_ofEntries (es : Entries) : (ofEntries es).toOption = es.mapM fileOf? := by
  induction es with
  | nil =>
      rw [ofEntries, List.mapM_nil]
      rfl
  | cons e es ih =>
      rw [ofEntries, List.mapM_cons, ← ih, fileOf?]
      split
      · cases checkFile e.2 with
        | faulty fs => rfl
        | ok rs =>
            dsimp only
            rw [toOption_map]
            cases (ofEntries es).toOption with
            | none => rfl
            | some sources => rfl
      · rfl

/-- The source files of a value that should be an object, faults aside. -/
def objectOf? (v : Value) : Option (List Source) :=
  match v.content with
  | .object es => (ofEntries es).toOption
  | _ => none

/-- A list of objects is read when each of them is. -/
theorem toOption_ofObjects (vs : List Value) :
    (ofObjects vs).toOption = (vs.mapM objectOf?).map List.flatten := by
  induction vs with
  | nil =>
      rw [ofObjects, List.mapM_nil]
      rfl
  | cons v vs ih =>
      rw [ofObjects, List.mapM_cons, objectOf?]
      cases v.content with
      | object es =>
          dsimp only
          cases ofEntries es with
          | error t => rfl
          | ok first =>
              dsimp only
              rw [toOption_map, ih]
              cases vs.mapM objectOf? with
              | none => rfl
              | some rest => rfl
      | _ => rfl

end Files

end Source

end ApiAtlas
