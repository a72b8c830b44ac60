import ApiAtlas.Record.Source

/-!
# Where a payload is refused

**Input.** A payload value, whatever it holds.

**Definitions.** `mappings` lists the objects that a payload is made of.  `Flawed` says where a
payload can go wrong: in its shape, in one of its entries, in the records of one file, or in one
record at any depth of nesting (`Inside`).

**Results.**
* `checkIn_of_inside`: in a record that is read, every record at every depth is read.
* `ofValue_ne_ok_of_flawed`: so one flaw anywhere refuses the payload as a whole.
* `ofValue_ne_broken`: the run breaks down over a payload only when a path cannot be shown.
* `ofObjects_append`: payloads can be read in parts.
-/

namespace ApiAtlas

namespace Checked

variable {α β : Type}

theorem under_eq_ok_iff {step : Text} {c : Checked α} {a : α} :
    c.under step = .ok a ↔ c = .ok a := by
  cases c with
  | ok b => rfl
  | faulty fs => simp [under]

theorem map_eq_ok_iff {f : α → β} {c : Checked α} {b : β} :
    c.map f = .ok b ↔ ∃ a, c = .ok a ∧ f a = b := by
  cases c with
  | ok a => simp [map]
  | faulty fs => simp [map]

theorem seq_eq_ok_iff {f : Checked (α → β)} {c : Checked α} {b : β} :
    f <*> c = .ok b ↔ ∃ g a, f = .ok g ∧ c = .ok a ∧ g a = b := by
  change f.ap c = .ok b ↔ _
  cases f with
  | ok g =>
      cases c with
      | ok a => simp [ap]
      | faulty fs => simp [ap]
  | faulty fs =>
      cases c with
      | ok a => simp [ap]
      | faulty gs => simp [ap]

end Checked

namespace Value

/-- The values of a list of records. -/
def recordItems (v : Value) : List Value :=
  match v.content with
  | .list items | .set items => items
  | _ => []

/-- Whether a value can stand for a list of records. -/
def IsRecordList (v : Value) : Prop :=
  match v.content with
  | .null | .list _ | .set _ => True
  | _ => False

end Value

namespace Record

section Defs

/-- Whether a value is no record, whatever its nested records are: it is no object, its own fields
are faulty, or something else stands in the place of its nested records. -/
def Malformed (v : Value) : Prop :=
  ∀ es : Entries, v.content = .object es →
    (∀ f, checkFields es ≠ .ok f) ∨
      ∃ key w, es.first? nestedKeys = some (key, w) ∧ ¬ w.IsRecordList

/-- The records that stand in a record at any depth; the record itself is one of them. -/
inductive Inside : Value → Value → Prop
  | self (v : Value) : Inside v v
  | nested {v w x y : Value} {es : Entries} {key : Text} :
      v.content = .object es → es.first? nestedKeys = some (key, w) → x ∈ w.recordItems →
      Inside x y → Inside v y

end Defs

section Reading

variable {opened : List (Nat × Nat)}

theorem checkEntries_eq_map (opened : List (Nat × Nat)) (es : Entries) :
    checkEntries opened es = es.map fun (k, v) => (k, fun _ => checkNested opened v) := by
  induction es with
  | nil =>
      rw [checkEntries, List.map_nil]
  | cons e es ih =>
      rw [checkEntries, List.map_cons, ih]

/-- The nested records are read from the first spelling that is there. -/
theorem pick_checkEntries (opened : List (Nat × Nat)) (es : Entries) (keys : List Text) :
    pick keys (checkEntries opened es) =
      match es.first? keys with
      | none => .ok []
      | some (key, w) => (checkNested opened w).under key := by
  induction keys with
  | nil =>
      rw [pick, Entries.first?]
  | cons key keys ih =>
      rw [pick, Entries.first?, Entries.get?, checkEntries_eq_map, List.find?_map]
      rw [checkEntries_eq_map] at ih
      simp only [Function.comp_def]
      cases es.find? fun e => e.1.sameKey (.str key) with
      | none => exact ih
      | some e => rfl

theorem checkNested_of_first? {es : Entries} {keys : List Text} {key : Text} {w : Value}
    {ns : List Record} (h : pick keys (checkEntries opened es) = .ok ns)
    (hw : es.first? keys = some (key, w)) : checkNested opened w = .ok ns := by
  rw [pick_checkEntries, hw] at h
  exact Checked.under_eq_ok_iff.1 h

/-- What is read as a record is an object with sound fields and sound nested records. -/
theorem exists_object_of_checkIn {v : Value} {r : Record} (h : checkIn opened v = .ok r) :
    ∃ es opened' f ns, v.content = .object es ∧ checkFields es = .ok f ∧
      pick nestedKeys (checkEntries opened' es) = .ok ns := by
  fun_induction Value.content v generalizing opened with
  | case1 mark v ih =>
      rw [checkIn] at h
      split at h
      · exact absurd h (by simp [Checked.refuse])
      · exact ih h
  | case2 v hshared =>
      cases v with
      | object es =>
          rw [checkIn, Checked.seq_eq_ok_iff] at h
          obtain ⟨g, ns, hg, hns, -⟩ := h
          obtain ⟨f, hf, -⟩ := Checked.map_eq_ok_iff.1 hg
          exact ⟨es, opened, f, ns, rfl, hf, hns⟩
      | shared mark v => exact absurd rfl (hshared mark v)
      | _ => simp [checkIn, Checked.refuse] at h

theorem exists_of_checkAll {items : List Value} {position : Nat} {rs : List Record}
    (h : checkAll opened position items = .ok rs) :
    ∀ x ∈ items, ∃ r, checkIn opened x = .ok r := by
  induction items generalizing position rs with
  | nil =>
      simp
  | cons v vs ih =>
      rw [checkAll, Checked.seq_eq_ok_iff] at h
      obtain ⟨g, rs', hg, hrs, -⟩ := h
      obtain ⟨r, hr, -⟩ := Checked.map_eq_ok_iff.1 hg
      intro x hx
      rcases List.mem_cons.1 hx with rfl | hx
      · exact ⟨r, Checked.under_eq_ok_iff.1 hr⟩
      · exact ih hrs x hx

/-- What is read as a list of records is one, and all its items are read. -/
theorem exists_of_checkNested {w : Value} {ns : List Record}
    (h : checkNested opened w = .ok ns) :
    w.IsRecordList ∧ ∀ x ∈ w.recordItems, ∃ r, checkIn opened x = .ok r := by
  rw [Value.IsRecordList, Value.recordItems]
  fun_induction Value.content w with
  | case1 mark v ih =>
      rw [checkNested] at h
      exact ih h
  | case2 w hshared =>
      cases w with
      | null => simp
      | list items =>
          rw [checkNested] at h
          exact ⟨trivial, exists_of_checkAll h⟩
      | set items =>
          rw [checkNested] at h
          exact ⟨trivial, exists_of_checkAll h⟩
      | shared mark v => exact absurd rfl (hshared mark v)
      | _ => simp [checkNested, Checked.refuse] at h

/-- In a record that is read, every record at every depth is read. -/
theorem checkIn_of_inside {v y : Value} {r : Record} (h : checkIn opened v = .ok r)
    (hy : Inside v y) : ∃ opened' r', checkIn opened' y = .ok r' := by
  induction hy generalizing opened r with
  | self v =>
      exact ⟨opened, r, h⟩
  | nested hes hw hx _ ih =>
      obtain ⟨es', opened', f, ns, hes', -, hns⟩ := exists_object_of_checkIn h
      rw [hes, Value.object.injEq] at hes'
      subst hes'
      obtain ⟨rx, hrx⟩ := (exists_of_checkNested (checkNested_of_first? hns hw)).2 _ hx
      exact ih hrx

theorem not_malformed_of_checkIn {v : Value} {r : Record} (h : checkIn opened v = .ok r) :
    ¬ Malformed v := by
  intro hv
  obtain ⟨es, opened', f, ns, hes, hf, hns⟩ := exists_object_of_checkIn h
  rcases hv es hes with hfields | ⟨key, w, hw, hlist⟩
  · exact hfields f hf
  · exact hlist (exists_of_checkNested (checkNested_of_first? hns hw)).1

end Reading

end Record

namespace Source

section Defs

/-- The objects that a payload is made of: itself, or the entries of its list. -/
def mappings (v : Value) : List Value :=
  match v.content with
  | .object _ => [v]
  | .list vs => vs
  | _ => []

/-- The values that stand for the records of a file. -/
def fileItems (file : Value) : List Value :=
  match file.content with
  | .list items => items
  | .object es => ((Entries.first? es recordKeys).map fun (_, w) => w.recordItems).getD []
  | _ => []

/-- Whether a value cannot stand for a file, whatever its records are. -/
def MalformedFile (file : Value) : Prop :=
  match file.content with
  | .list _ => False
  | .object es => ∃ key w, Entries.first? es recordKeys = some (key, w) ∧ ¬ w.IsRecordList
  | v => v.isGiven = true

/-- What can be wrong with a payload, and where. -/
inductive Flawed (v : Value) : Prop
  /-- The payload is neither an object nor a list. -/
  | shape : (∀ es, v.content ≠ .object es) → (∀ vs, v.content ≠ .list vs) → Flawed v
  /-- An entry is no object. -/
  | entry {x : Value} : x ∈ mappings v → (∀ es, x.content ≠ .object es) → Flawed v
  /-- A file is not made of records. -/
  | file {x k file : Value} {es : Entries} : x ∈ mappings v → x.content = .object es →
      (k, file) ∈ es → MalformedFile file → Flawed v
  /-- A record is malformed, at any depth of any file. -/
  | record {x k file y z : Value} {es : Entries} : x ∈ mappings v → x.content = .object es →
      (k, file) ∈ es → y ∈ fileItems file → Record.Inside y z → Record.Malformed z → Flawed v

/-- Whether every path of a payload can be shown. -/
def Showable (v : Value) : Prop :=
  ∀ x ∈ mappings v, ∀ es, x.content = .object es → ∀ e ∈ es, e.1.isShowable [] = true

end Defs

section Files

theorem exists_of_checkEach {items : List Value} {rs : List Record}
    (h : checkEach items = .ok rs) : ∀ x ∈ items, ∃ r, Record.checkIn [] x = .ok r := by
  induction items generalizing rs with
  | nil =>
      simp
  | cons v vs ih =>
      rw [checkEach] at h
      split at h
      · exact absurd h (by simp)
      · obtain ⟨rs', hrs, -⟩ := Checked.map_eq_ok_iff.1 h
        intro x hx
        rcases List.mem_cons.1 hx with rfl | hx
        · exact ⟨_, ‹Record.check x = _›⟩
        · exact ih hrs x hx

/-- In a file that is read, every record is read. -/
theorem exists_of_checkFile {file : Value} {rs : List Record} (h : checkFile file = .ok rs) :
    ¬ MalformedFile file ∧ ∀ y ∈ fileItems file, ∃ r, Record.checkIn [] y = .ok r := by
  rw [checkFile] at h
  rw [MalformedFile, fileItems]
  cases hcontent : file.content with
  | list items =>
      rw [hcontent] at h
      exact ⟨not_false, exists_of_checkEach h⟩
  | object es =>
      rw [hcontent] at h
      dsimp only at h ⊢
      constructor
      · rintro ⟨key, w, hw, hlist⟩
        exact hlist (Record.exists_of_checkNested (Record.checkNested_of_first? h hw)).1
      · cases hw : Entries.first? es recordKeys with
        | none => simp
        | some kw =>
            exact (Record.exists_of_checkNested (Record.checkNested_of_first? h hw)).2
  | _ =>
      rw [hcontent] at h
      dsimp only at h ⊢
      split at h
      · exact absurd h (by simp [Checked.refuse])
      · simp_all

end Files

section Payloads

theorem map_eq_ok_iff {ε α β : Type} {f : α → β} {c : Except ε α} {b : β} :
    c.map f = .ok b ↔ ∃ a, c = .ok a ∧ f a = b := by
  cases c with
  | error e => simp [Except.map]
  | ok a => simp [Except.map]

theorem ofEntries_cons_eq_ok_iff {k file : Value} {es : Entries} {sources : List Source} :
    ofEntries ((k, file) :: es) = .ok sources ↔
      k.isShowable [] = true ∧ ∃ rs rest, checkFile file = .ok rs ∧ ofEntries es = .ok rest ∧
        ⟨k.shown, rs⟩ :: rest = sources := by
  rw [ofEntries]
  split
  · cases checkFile file with
    | faulty fs => simp
    | ok rs => simp [map_eq_ok_iff, ‹k.isShowable [] = true›]
  · simp [‹¬ k.isShowable [] = true›]

theorem ofObjects_cons_eq_ok_iff {v : Value} {vs : List Value} {sources : List Source} :
    ofObjects (v :: vs) = .ok sources ↔
      ∃ es first rest, v.content = .object es ∧ ofEntries es = .ok first ∧
        ofObjects vs = .ok rest ∧ first ++ rest = sources := by
  rw [ofObjects]
  cases v.content with
  | object es =>
      cases hes : ofEntries es with
      | error t => simp [hes]
      | ok first => simp [hes, map_eq_ok_iff]
  | _ => simp

theorem checkFile_of_ofEntries {es : Entries} {sources : List Source}
    (h : ofEntries es = .ok sources) {k file : Value} (hfile : (k, file) ∈ es) :
    ∃ rs, checkFile file = .ok rs := by
  induction es generalizing sources with
  | nil =>
      simp at hfile
  | cons e es ih =>
      obtain ⟨-, rs, rest, hrs, hrest, -⟩ := ofEntries_cons_eq_ok_iff.1 h
      rcases List.mem_cons.1 hfile with rfl | hfile
      · exact ⟨rs, hrs⟩
      · exact ih hrest hfile

theorem ofEntries_of_ofObjects {vs : List Value} {sources : List Source}
    (h : ofObjects vs = .ok sources) {x : Value} (hx : x ∈ vs) :
    ∃ es first, x.content = .object es ∧ ofEntries es = .ok first := by
  induction vs generalizing sources with
  | nil =>
      simp at hx
  | cons v vs ih =>
      obtain ⟨es, first, rest, hes, hfirst, hrest, -⟩ := ofObjects_cons_eq_ok_iff.1 h
      rcases List.mem_cons.1 hx with rfl | hx
      · exact ⟨es, first, hes, hfirst⟩
      · exact ih hrest hx

/-- Objects can be read in parts. -/
theorem ofObjects_append {vs ws : List Value} {as bs : List Source} (ha : ofObjects vs = .ok as)
    (hb : ofObjects ws = .ok bs) : ofObjects (vs ++ ws) = .ok (as ++ bs) := by
  induction vs generalizing as with
  | nil =>
      rw [ofObjects, Except.ok.injEq] at ha
      rw [← ha, List.nil_append, List.nil_append, hb]
  | cons v vs ih =>
      obtain ⟨es, first, rest, hes, hfirst, hrest, rfl⟩ := ofObjects_cons_eq_ok_iff.1 ha
      rw [List.cons_append, ofObjects_cons_eq_ok_iff]
      exact ⟨es, first, rest ++ bs, hes, hfirst, ih hrest, by rw [List.append_assoc]⟩

/-- A payload that is read has the shape of one, and its objects are read. -/
theorem ofObjects_of_ofValue {v : Value} {sources : List Source} (h : ofValue v = .ok sources) :
    ((∃ es, v.content = .object es) ∨ ∃ vs, v.content = .list vs) ∧
      ofObjects (mappings v) = .ok sources := by
  rw [ofValue] at h
  rw [mappings]
  cases hcontent : v.content with
  | object es =>
      rw [hcontent] at h
      refine ⟨Or.inl ⟨es, rfl⟩, ?_⟩
      rw [ofObjects_cons_eq_ok_iff]
      exact ⟨es, sources, [], hcontent, h, rfl, List.append_nil sources⟩
  | list vs =>
      rw [hcontent] at h
      exact ⟨Or.inr ⟨vs, rfl⟩, h⟩
  | _ =>
      rw [hcontent] at h
      simp at h

/-- One flaw anywhere refuses the payload as a whole. -/
theorem ofValue_ne_ok_of_flawed {v : Value} (h : Flawed v) (sources : List Source) :
    ofValue v ≠ .ok sources := by
  intro hok
  obtain ⟨hshape, hobjects⟩ := ofObjects_of_ofValue hok
  cases h with
  | shape hobject hlist =>
      rcases hshape with ⟨es, hes⟩ | ⟨vs, hvs⟩
      · exact hobject es hes
      · exact hlist vs hvs
  | entry hx hentry =>
      obtain ⟨es, first, hes, -⟩ := ofEntries_of_ofObjects hobjects hx
      exact hentry es hes
  | file hx hes hfile hmalformed =>
      obtain ⟨es', first, hes', hfirst⟩ := ofEntries_of_ofObjects hobjects hx
      rw [hes, Value.object.injEq] at hes'
      obtain ⟨rs, hrs⟩ := checkFile_of_ofEntries hfirst (hes' ▸ hfile)
      exact (exists_of_checkFile hrs).1 hmalformed
  | record hx hes hfile hy hz hmalformed =>
      obtain ⟨es', first, hes', hfirst⟩ := ofEntries_of_ofObjects hobjects hx
      rw [hes, Value.object.injEq] at hes'
      obtain ⟨rs, hrs⟩ := checkFile_of_ofEntries hfirst (hes' ▸ hfile)
      obtain ⟨r, hr⟩ := (exists_of_checkFile hrs).2 _ hy
      obtain ⟨opened, r', hr'⟩ := Record.checkIn_of_inside hr hz
      exact Record.not_malformed_of_checkIn hr' hmalformed

theorem ofEntries_ne_broken {es : Entries} (h : ∀ e ∈ es, e.1.isShowable [] = true)
    (b : Breakdown) : ofEntries es ≠ .error (.broken b) := by
  induction es with
  | nil =>
      simp [ofEntries]
  | cons e es ih =>
      rw [ofEntries, if_pos (h e (List.mem_cons_self ..))]
      split
      · simp
      · have hrest := ih fun e' he => h e' (List.mem_cons_of_mem e he)
        cases hes : ofEntries es with
        | error t => simpa [Except.map, hes] using hrest
        | ok rest => simp [Except.map]

theorem ofObjects_ne_broken {vs : List Value}
    (h : ∀ x ∈ vs, ∀ es, x.content = .object es → ∀ e ∈ es, e.1.isShowable [] = true)
    (b : Breakdown) : ofObjects vs ≠ .error (.broken b) := by
  induction vs with
  | nil =>
      simp [ofObjects]
  | cons v vs ih =>
      rw [ofObjects]
      split
      · have hfirst := ofEntries_ne_broken (h v (List.mem_cons_self ..) _ ‹v.content = _›) b
        have hrest := ih fun x hx => h x (List.mem_cons_of_mem v hx)
        split
        · simpa [‹ofEntries _ = _›] using hfirst
        · cases hvs : ofObjects vs with
          | error t => simpa [Except.map, hvs] using hrest
          | ok rest => simp [Except.map]
      · simp

/-- The run breaks down over a payload only when a path cannot be shown. -/
theorem ofValue_ne_broken {v : Value} (h : Showable v) (b : Breakdown) :
    ofValue v ≠ .error (.broken b) := by
  rw [Showable, mappings] at h
  rw [ofValue]
  split
  · exact ofEntries_ne_broken (h v (by simp [‹v.content = _›]) _ ‹v.content = _›) b
  · apply ofObjects_ne_broken
    intro x hx
    exact h x (by simpa [‹v.content = _›] using hx)
  · simp

end Payloads

end Source

end ApiAtlas
