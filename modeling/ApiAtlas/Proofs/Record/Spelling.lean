import ApiAtlas.Proofs.Record.Reading
import Mathlib.Logic.Relation

/-!
# Spellings and layouts of a payload

**Input.** A payload value, whatever it holds.

**Definitions.** What a value is read as depends on its `Part` in the payload.  `Respelled`
replaces, somewhere in a part, one key of a record by another spelling of the same field; the record
has no other spelling of that field.  `layouts` are the ways to write a payload of one file.

**Algorithm.** A record is read through the values of its fields, and a field has the same value
under each of its spellings, because no key is a spelling of two fields.  Everything around a record
is read when all its members are, so one record that reads the same changes nothing.

**Results.**
* `Respelled.agrees`: each part is read as before, faults aside.
* `toOption_layout`: all layouts are read as the one list of records that they hold.
* `ofValue_uniform`: neither the spelling nor the layout matters.
-/

namespace ApiAtlas

namespace Value

theorem sameKey_str_iff {k : Value} {t : Text} : k.sameKey (.str t) = true ↔ k = .str t := by
  cases k <;> simp [sameKey, asInt?]

end Value

namespace Entries

variable {front back : Entries} {k v w : Value} {t old : Text} {keys : List Text}

theorem get?_append_of_ne (h : k ≠ .str t) :
    get? (front ++ (k, v) :: back) t = get? (front ++ back) t := by
  have hkey : k.sameKey (.str t) = false := by
    simpa using mt Value.sameKey_str_iff.1 h
  simp only [get?, List.find?_append, List.find?_cons, hkey]

theorem get?_eq_none (h : ∀ e ∈ front, e.1 ≠ .str t) : get? front t = none := by
  rw [get?, Option.map_eq_none_iff, List.find?_eq_none]
  intro e he hkey
  exact h e he (Value.sameKey_str_iff.1 hkey)

theorem get?_append_self (h : ∀ e ∈ front, e.1 ≠ .str t) :
    get? (front ++ (.str t, v) :: back) t = some v := by
  have hfront : front.find? (fun e => e.1.sameKey (.str t)) = none := by
    simpa [get?] using get?_eq_none h
  have hkey : (Value.str t).sameKey (.str t) = true := Value.sameKey_str_iff.2 rfl
  simp only [get?, List.find?_append, hfront, List.find?_cons, hkey]
  rfl

/-- Under the only spelling of a field that is there stands the value of the field. -/
theorem field?_of_only (hold : old ∈ keys) (h : ∀ e ∈ front ++ back, ∀ t ∈ keys, e.1 ≠ .str t) :
    field? (front ++ (.str old, v) :: back) keys = some v := by
  induction keys with
  | nil =>
      simp at hold
  | cons t keys ih =>
      rw [field?, first?]
      by_cases ht : old = t
      · subst ht
        rw [get?_append_self fun e he => h e (List.mem_append_left back he) old (by simp)]
        rfl
      · have hnone : get? (front ++ (.str old, v) :: back) t = none := by
          rw [get?_append_of_ne (by simpa using ht)]
          exact get?_eq_none fun e he => h e he t (by simp)
        rw [hnone]
        apply ih
        · simpa [ht, Ne.symm ht] using hold
        · intro e he u hu
          exact h e he u (List.mem_cons_of_mem t hu)

/-- A field depends on what stands under its spellings. -/
theorem map_field?_congr {β : Type} {g : Value → β} {es es' : Entries}
    (h : ∀ t ∈ keys, (es.get? t).map g = (es'.get? t).map g) :
    (es.field? keys).map g = (es'.field? keys).map g := by
  induction keys with
  | nil =>
      rfl
  | cons t keys ih =>
      have ht := h t (List.mem_cons_self ..)
      have hrest := ih fun u hu => h u (List.mem_cons_of_mem t hu)
      simp only [field?, first?] at hrest ⊢
      cases hes : es.get? t with
      | none =>
          cases hes' : es'.get? t with
          | none => simpa [hes, hes'] using hrest
          | some x => simp [hes, hes'] at ht
      | some x =>
          cases hes' : es'.get? t with
          | none => simp [hes, hes'] at ht
          | some y => simpa [hes, hes'] using ht

theorem field?_append_of_not_mem (h : ∀ t ∈ keys, k ≠ .str t) :
    field? (front ++ (k, v) :: back) keys = field? (front ++ back) keys := by
  have hmap : (field? (front ++ (k, v) :: back) keys).map id =
      (field? (front ++ back) keys).map id :=
    map_field?_congr fun t ht => by rw [get?_append_of_ne (h t ht)]
  simpa using hmap

theorem map_get?_replace {β : Type} {g : Value → β} (h : g v = g w) (t : Text) :
    (get? (front ++ (k, v) :: back) t).map g = (get? (front ++ (k, w) :: back) t).map g := by
  simp only [get?, List.find?_append, List.find?_cons]
  cases front.find? fun e => e.1.sameKey (.str t) with
  | some e => rfl
  | none =>
      cases k.sameKey (.str t) with
      | true => simp [h]
      | false => rfl

end Entries

namespace Record

/-- The accepted spellings of each field of a record. -/
def spellings : List (List Text) :=
  ownSpellings ++ [nestedKeys]

/-- No key is a spelling of two fields. -/
theorem spellings_disjoint : ∀ as ∈ spellings, ∀ bs ∈ spellings, ∀ t ∈ as, t ∈ bs → as = bs := by
  decide +kernel

variable {front back front' back' : Entries} {k v w : Value} {old new : Text}
  {keys : List Text} {opened : List (Nat × Nat)}

/-- Every field has the same value under each of its spellings. -/
theorem field?_respelled (hkeys : keys ∈ spellings) (hold : old ∈ keys) (hnew : new ∈ keys)
    (honly : ∀ e ∈ front ++ back, ∀ t ∈ keys, e.1 ≠ .str t)
    (hrest : front' ++ back' = front ++ back) (v : Value) :
    ∀ asked ∈ spellings, Entries.field? (front ++ (.str old, v) :: back) asked =
      Entries.field? (front' ++ (.str new, v) :: back') asked := by
  intro asked hasked
  by_cases heq : asked = keys
  · subst heq
    rw [Entries.field?_of_only hold honly, Entries.field?_of_only hnew (hrest ▸ honly)]
  · -- The key of another field is not asked for, whichever spelling it has.
    have hother : ∀ s ∈ keys, ∀ t ∈ asked, Value.str s ≠ .str t := by
      rintro s hs t ht ⟨rfl⟩
      exact heq (spellings_disjoint asked hasked keys hkeys s ht hs)
    rw [Entries.field?_append_of_not_mem (hother old hold),
      Entries.field?_append_of_not_mem (hother new hnew), hrest]

/-- Records under a key may be exchanged for records that are read the same. -/
theorem value?_pick_replace (h : (checkNested opened v).value? = (checkNested opened w).value?)
    (keys : List Text) :
    (pick keys (checkEntries opened (front ++ (k, v) :: back))).value? =
      (pick keys (checkEntries opened (front ++ (k, w) :: back))).value? := by
  rw [value?_pick, value?_pick]
  congr 1
  exact Entries.map_field?_congr fun t _ => Entries.map_get?_replace h t

/-- The nested records are not asked for as another field. -/
theorem value?_checkFields_replace {key : Text} (hkey : key ∈ nestedKeys) :
    (checkFields (front ++ (.str key, v) :: back)).value? =
      (checkFields (front ++ (.str key, w) :: back)).value? := by
  apply value?_checkFields
  intro keys hkeys
  have hother : ∀ t ∈ keys, Value.str key ≠ .str t := by
    rintro t ht ⟨rfl⟩
    have heq : keys = nestedKeys :=
      spellings_disjoint keys (List.mem_append_left _ hkeys) nestedKeys (by decide) key ht hkey
    have hown : nestedKeys ∉ ownSpellings := by decide
    exact hown (heq ▸ hkeys)
  rw [Entries.field?_append_of_not_mem hother, Entries.field?_append_of_not_mem hother]

end Record

namespace Source

section Respelling

/-- The parts of a payload that hold records: what a value is read as. -/
inductive Part
  /-- One record. -/
  | record
  /-- The records nested in a record, or held by an object. -/
  | nested
  /-- The records of a file. -/
  | file
  /-- Files by their paths. -/
  | object
  /-- Everything. -/
  | payload
deriving DecidableEq, Repr

/-- One key of one record in the part, the only spelling of its field there, is replaced by another
spelling of that field.  The entry may move. -/
inductive Respelled : Part → Value → Value → Prop
  | key {keys : List Text} {old new : Text} {v : Value} {front back front' back' : Entries} :
      keys ∈ Record.spellings → old ∈ keys → new ∈ keys →
      (∀ e ∈ front ++ back, ∀ t ∈ keys, e.1 ≠ .str t) →
      front' ++ back' = front ++ back →
      Respelled .record (.object (front ++ (.str old, v) :: back))
        (.object (front' ++ (.str new, v) :: back'))
  | field {key : Text} {v w : Value} (front back : Entries) :
      key ∈ Record.nestedKeys → Respelled .nested v w →
      Respelled .record (.object (front ++ (.str key, v) :: back))
        (.object (front ++ (.str key, w) :: back))
  | item {v w : Value} (front back : List Value) :
      Respelled .record v w →
      Respelled .nested (.list (front ++ v :: back)) (.list (front ++ w :: back))
  | member {v w : Value} (front back : List Value) :
      Respelled .record v w →
      Respelled .nested (.set (front ++ v :: back)) (.set (front ++ w :: back))
  | listed {v w : Value} (front back : List Value) :
      Respelled .record v w →
      Respelled .file (.list (front ++ v :: back)) (.list (front ++ w :: back))
  | held {key : Text} {v w : Value} (front back : Entries) :
      key ∈ recordKeys → Respelled .nested v w →
      Respelled .file (.object (front ++ (.str key, v) :: back))
        (.object (front ++ (.str key, w) :: back))
  | file {path v w : Value} (front back : Entries) :
      Respelled .file v w →
      Respelled .object (.object (front ++ (path, v) :: back))
        (.object (front ++ (path, w) :: back))
  | whole {v w : Value} :
      Respelled .object v w → Respelled .payload v w
  | entry {v w : Value} (front back : List Value) :
      Respelled .object v w →
      Respelled .payload (.list (front ++ v :: back)) (.list (front ++ w :: back))
  | shared {part : Part} {v w : Value} (mark : Nat × Nat) :
      Respelled part v w → Respelled part (.shared mark v) (.shared mark w)

/-- The two values are read the same as the part, faults aside. -/
def Agrees : Part → Value → Value → Prop
  | .record, v, w => ∀ opened, (Record.checkIn opened v).value? = (Record.checkIn opened w).value?
  | .nested, v, w =>
      ∀ opened, (Record.checkNested opened v).value? = (Record.checkNested opened w).value?
  | .file, v, w => (checkFile v).value? = (checkFile w).value?
  | .object, v, w => ∃ es es' : Entries, v.content = .object es ∧ w.content = .object es' ∧
      (ofEntries es).toOption = (ofEntries es').toOption
  | .payload, v, w => (ofValue v).toOption = (ofValue w).toOption

theorem mapM_replace {α β : Type} (f : α → Option β) {x y : α} (h : f x = f y)
    (front back : List α) :
    (front ++ x :: back).mapM f = (front ++ y :: back).mapM f := by
  simp only [List.mapM_append, List.mapM_cons, h]

theorem Agrees.shared {part : Part} {v w : Value} (mark : Nat × Nat) (h : Agrees part v w) :
    Agrees part (.shared mark v) (.shared mark w) := by
  cases part with
  | record =>
      intro opened
      rw [Record.checkIn, Record.checkIn]
      split
      · rfl
      · exact h (mark :: opened)
  | nested =>
      intro opened
      rw [Record.checkNested, Record.checkNested]
      exact h opened
  | file => exact h
  | object => exact h
  | payload => exact h

/-- Respelling a part does not change what it is read as. -/
theorem Respelled.agrees {part : Part} {v w : Value} (h : Respelled part v w) :
    Agrees part v w := by
  -- The first two cases are about one record; the others carry its reading outwards, through what
  -- stands in front of it and behind it.
  induction h with
  | @key keys old new v front back front' back' hkeys hold hnew honly hrest =>
      intro opened
      have hfield := Record.field?_respelled hkeys hold hnew honly hrest v
      apply Record.value?_checkIn_object
      · exact Record.value?_checkFields fun asked hasked =>
          hfield asked (List.mem_append_left _ hasked)
      · rw [Record.value?_pick, Record.value?_pick, hfield Record.nestedKeys (by decide)]
  | field front back hkey h ih =>
      intro opened
      apply Record.value?_checkIn_object
      · exact Record.value?_checkFields_replace hkey
      · exact Record.value?_pick_replace (ih opened) Record.nestedKeys
  | item front back h ih =>
      intro opened
      rw [Record.checkNested, Record.checkNested, Record.value?_checkAll, Record.value?_checkAll]
      exact mapM_replace (fun v => (Record.checkIn opened v).value?) (ih opened) front back
  | member front back h ih =>
      intro opened
      rw [Record.checkNested, Record.checkNested, Record.value?_checkAll, Record.value?_checkAll]
      exact mapM_replace (fun v => (Record.checkIn opened v).value?) (ih opened) front back
  | listed front back h ih =>
      rw [Agrees, checkFile_of_list rfl, checkFile_of_list rfl, value?_checkEach, value?_checkEach]
      exact mapM_replace (fun v => (Record.checkIn [] v).value?) (ih []) front back
  | held front back hkey h ih =>
      rw [Agrees, checkFile_of_object rfl, checkFile_of_object rfl]
      exact Record.value?_pick_replace (ih []) recordKeys
  | @file path v w front back h ih =>
      refine ⟨_, _, rfl, rfl, ?_⟩
      have hfile : fileOf? (path, v) = fileOf? (path, w) := by
        rw [fileOf?, fileOf?, ih]
      rw [toOption_ofEntries, toOption_ofEntries]
      exact mapM_replace fileOf? hfile front back
  | whole h ih =>
      obtain ⟨es, es', hv, hw, heq⟩ := ih
      rw [Agrees, ofValue, ofValue, hv, hw]
      exact heq
  | @entry v w front back h ih =>
      obtain ⟨es, es', hv, hw, heq⟩ := ih
      have hobject : objectOf? v = objectOf? w := by
        rw [objectOf?, objectOf?, hv, hw]
        exact heq
      change (ofObjects _).toOption = (ofObjects _).toOption
      rw [toOption_ofObjects, toOption_ofObjects, mapM_replace objectOf? hobject front back]
  | shared mark h ih => exact ih.shared mark

end Respelling

section Layouts

/-- The ways to write the records of a file: as a list, or in an object that holds the list. -/
def fileLayouts (list : Value) : List Value :=
  list :: recordKeys.map fun key => .object [(.str key, list)]

/-- The ways to write a payload of one file: as an object, or as a list of one object. -/
def layouts (path list : Value) : List Value :=
  let objects := (fileLayouts list).map fun file => .object [(path, file)]
  objects ++ objects.map fun object => .list [object]

/-- The source file of a path and its records, when all of them can be read. -/
def sourceOf? (path : Value) (items : List Value) : Option Source :=
  if path.isShowable [] then
    (items.mapM fun v => (Record.check v).value?).map (Source.mk path.shown)
  else none

variable {path list file : Value} {items : List Value}

theorem value?_checkFile_layout (h : list.content = .list items) (hfile : file ∈ fileLayouts list) :
    (checkFile file).value? = items.mapM fun v => (Record.check v).value? := by
  obtain rfl | hfile := List.mem_cons.1 hfile
  · rw [checkFile_of_list h, value?_checkEach]
    rfl
  · -- The object is read all at once, with the faults of every record, but as the same records.
    obtain ⟨key, hkey, rfl⟩ := List.mem_map.1 hfile
    have hfield : Entries.field? [(.str key, list)] recordKeys = some list :=
      @Entries.field?_of_only [] [] list key recordKeys hkey (by simp)
    rw [checkFile_of_object rfl, Record.value?_pick, hfield, Option.map_some, Option.getD_some,
      Record.checkNested_of_content [] h, Record.value?_checkAll]
    rfl

theorem toOption_ofEntries_layout (h : list.content = .list items)
    (hfile : file ∈ fileLayouts list) :
    (ofEntries [(path, file)]).toOption = (sourceOf? path items).map fun source => [source] := by
  have hsource : fileOf? (path, file) = sourceOf? path items := by
    rw [fileOf?, value?_checkFile_layout h hfile, sourceOf?]
  rw [toOption_ofEntries, List.mapM_cons, List.mapM_nil, hsource]
  cases sourceOf? path items with
  | none => rfl
  | some source => rfl

/-- All layouts are read as the one file with the records of the list. -/
theorem toOption_layout (h : list.content = .list items) :
    ∀ p ∈ layouts path list,
      (ofValue p).toOption = (sourceOf? path items).map fun source => [source] := by
  intro p hp
  obtain hp | hp := List.mem_append.1 hp
  · obtain ⟨file, hfile, rfl⟩ := List.mem_map.1 hp
    exact toOption_ofEntries_layout h hfile
  · obtain ⟨object, hobject, rfl⟩ := List.mem_map.1 hp
    obtain ⟨file, hfile, rfl⟩ := List.mem_map.1 hobject
    have hread : objectOf? (.object [(path, file)]) =
        (sourceOf? path items).map fun source => [source] :=
      toOption_ofEntries_layout h hfile
    change (ofObjects [.object [(path, file)]]).toOption = _
    rw [toOption_ofObjects, List.mapM_cons, List.mapM_nil, hread]
    cases sourceOf? path items with
    | none => rfl
    | some source => rfl

end Layouts

/-- Neither the spelling of the fields nor the layout of the files matters: a payload is read as the
same source files, or refused in all its forms. -/
theorem ofValue_uniform :
    (∀ v w, Relation.ReflTransGen (Respelled .payload) v w →
      (ofValue v).toOption = (ofValue w).toOption) ∧
    (∀ path list items, list.content = .list items → ∀ p ∈ layouts path list,
      (ofValue p).toOption = (sourceOf? path items).map fun source => [source]) := by
  constructor
  · intro v w h
    induction h with
    | refl => rfl
    | tail _ hstep ih => exact ih.trans hstep.agrees
  · intro path list items h
    exact toOption_layout h

/-- A class with a public method, under the given spellings of two fields. -/
def spelledClass (nestedKey accessKey : Text) : Value :=
  .object [(.str "key.kind".toList, .str "source.lang.swift.decl.class".toList),
    (.str nestedKey, .list [.object [
      (.str accessKey, .str "source.lang.swift.accessibility.public".toList),
      (.str "kind".toList, .str "source.lang.swift.decl.function.method.instance".toList)]])]

/-- The payload of a module with one file. -/
def spelledModule (file : Value) : Value :=
  .list [.object [(.str "Sources/A.swift".toList, file)]]

theorem spelledModule_uniform :
    let plain := spelledModule (.list [spelledClass "nested".toList "access".toList])
    let qualified := spelledModule
      (.list [spelledClass "key.substructure".toList "key.accessibility".toList])
    let wrapped := spelledModule (.object [(.str "key.substructure".toList,
      .list [spelledClass "nested".toList "access".toList])])
    Relation.ReflTransGen (Respelled .payload) plain qualified ∧
      (ofValue plain).toOption.isSome ∧
      (ofValue qualified).toOption = (ofValue plain).toOption ∧
      (ofValue wrapped).toOption = (ofValue plain).toOption := by
  intro plain qualified wrapped
  have hmethod : Respelled .payload plain
      (spelledModule (.list [spelledClass "nested".toList "key.accessibility".toList])) :=
    .entry [] [] (.file [] [] (.listed [] [] (.field [_] [] (by decide)
      (.item [] [] (@Respelled.key Record.accessKeys _ _ _ [] [_] [] [_] (by decide) (by decide)
        (by decide) (by simp [Record.accessKeys]) rfl)))))
  have hclass : Respelled .payload
      (spelledModule (.list [spelledClass "nested".toList "key.accessibility".toList]))
      qualified :=
    .entry [] [] (.file [] [] (.listed [] [] (@Respelled.key Record.nestedKeys _ _ _ [_] [] [_] []
      (by decide) (by decide) (by decide) (by simp [Record.nestedKeys]) rfl)))
  have hsteps : Relation.ReflTransGen (Respelled .payload) plain qualified :=
    .tail (.single hmethod) hclass
  have hlayout := ofValue_uniform.2 (.str "Sources/A.swift".toList)
    (.list [spelledClass "nested".toList "access".toList]) _ rfl
  have hplain := hlayout plain (List.mem_of_getElem? (i := 3) rfl)
  have hwrapped := hlayout wrapped (List.mem_of_getElem? (i := 5) rfl)
  exact ⟨hsteps, rfl, (ofValue_uniform.1 plain qualified hsteps).symm, hwrapped.trans hplain.symm⟩

end Source

end ApiAtlas
