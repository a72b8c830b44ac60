import ApiAtlas.Slug

/-!
# The normal form of slugs

**Input.** Any text, such as a title.

**Definitions.** `wordRuns` are the longest runs of word characters in a text, in their order;
`opensOutside` and `closesOutside` say whether other characters stand at its ends.  `Alike` texts
agree in the runs and at both ends.  From these three facts `spelled` makes a text with one hyphen
for each gap.

**Results.**
* `slug_eq_spelled`: the slug of a text is made of the three facts alone.
* `wordRuns_slugFrom`, `head?_slug`, `getLast?_slug`: and it shows each of them.
* `slug_eq_slug_iff`: so the same slug is that of alike texts.
* `slug_eq_self_iff`: the slugs are the texts of word characters and single hyphens.
-/

namespace ApiAtlas

namespace Text

section Defs

/-- The longest runs of word characters, in their order. -/
def wordRuns (t : Text) : List Text :=
  (t.splitOnP fun c => !isWord c).filter (· ≠ [])

/-- Whether the text begins with another than a word character. -/
def opensOutside (t : Text) : Bool :=
  t.head?.any fun c => !isWord c

/-- Whether the text ends with another than a word character. -/
def closesOutside (t : Text) : Bool :=
  t.getLast?.any fun c => !isWord c

/-- Whether two texts have the same runs of word characters, and agree on what stands at their
ends. -/
structure Alike (t u : Text) : Prop where
  runs : wordRuns t = wordRuns u
  opening : opensOutside t = opensOutside u
  closing : closesOutside t = closesOutside u

/-- Runs with a hyphen between neighbours, and at the ends where there is a gap.  Without a run
there is one gap at most. -/
def spelled (opens closes : Bool) : List Text → Text
  | [] => if opens then ['-'] else []
  | r :: rs =>
    (if opens then ['-'] else []) ++ join ['-'] (r :: rs) ++ (if closes then ['-'] else [])

/-- What a character becomes when it begins a gap or belongs to a word. -/
def hyphened (c : Char) : Char :=
  if isWord c then c else '-'

end Defs

section Runs

variable {c : Char} {t : Text}

@[simp] theorem wordRuns_nil : wordRuns [] = [] := rfl

theorem wordRuns_cons_of_gap (hc : isWord c = false) (t : Text) :
    wordRuns (c :: t) = wordRuns t := by
  simp [wordRuns, List.splitOnP_cons_eq_if_modifyHead, hc]

/-- A word character goes on with the next run, or is one of its own before a gap. -/
theorem wordRuns_cons_of_word (hc : isWord c = true) (t : Text) :
    wordRuns (c :: t) =
      if t.head?.any isWord then (wordRuns t).modifyHead (c :: ·) else [c] :: wordRuns t := by
  cases t with
  | nil => simp [wordRuns, List.splitOnP_cons_eq_if_modifyHead, hc]
  | cons d t =>
    obtain ⟨r, rs, hr⟩ :=
      List.exists_cons_of_ne_nil (List.splitOnP_ne_nil (fun c => !isWord c) t)
    cases hd : isWord d with
    | true => simp [wordRuns, List.splitOnP_cons_eq_if_modifyHead, hc, hd, hr]
    | false => simp [wordRuns, List.splitOnP_cons_eq_if_modifyHead, hc, hd]

theorem wordRuns_cons_ne_nil (hc : isWord c = true) (t : Text) : wordRuns (c :: t) ≠ [] := by
  obtain ⟨r, rs, hr⟩ :=
    List.exists_cons_of_ne_nil (List.splitOnP_ne_nil (fun c => !isWord c) t)
  simp [wordRuns, List.splitOnP_cons_eq_if_modifyHead, hc, hr]

/-- A text without runs is all gap. -/
theorem isWord_of_wordRuns_eq_nil (h : wordRuns t = []) : ∀ c ∈ t, isWord c = false := by
  induction t with
  | nil => simp
  | cons a t ih =>
    cases ha : isWord a with
    | true => exact absurd h (wordRuns_cons_ne_nil ha t)
    | false =>
      rw [wordRuns_cons_of_gap ha] at h
      simpa [ha] using ih h

end Runs

section Ends

variable {c d : Char} {t : Text}

theorem closesOutside_cons_cons (c d : Char) (t : Text) :
    closesOutside (c :: d :: t) = closesOutside (d :: t) := by
  simp [closesOutside]

theorem closesOutside_of_gap (hne : t ≠ []) (h : ∀ c ∈ t, isWord c = false) :
    closesOutside t = true := by
  rw [closesOutside, List.getLast?_eq_some_getLast hne]
  simpa using h _ (List.getLast_mem hne)

theorem hyphened_of_word (hc : isWord c = true) : hyphened c = c := by
  simp [hyphened, hc]

theorem hyphened_of_gap (hc : isWord c = false) : hyphened c = '-' := by
  simp [hyphened, hc]

@[simp] theorem isWord_hyphened (c : Char) : isWord (hyphened c) = isWord c := by
  cases hc : isWord c with
  | true => rw [hyphened_of_word hc, hc]
  | false => rw [hyphened_of_gap hc, isWord_hyphen]

theorem hyphened_eq_hyphen_iff : hyphened c = '-' ↔ isWord c = false := by
  rw [← isWord_hyphened c]
  constructor
  · intro h
    rw [h, isWord_hyphen]
  · intro h
    exact hyphened_of_gap (by simpa using h)

theorem slugFrom_cons_of_word (hc : isWord c = true) (inGap : Bool) (t : Text) :
    slugFrom inGap (c :: t) = c :: slugFrom false t := by
  simp [slugFrom, hc]

theorem slugFrom_cons_of_gap (hc : isWord c = false) (inGap : Bool) (t : Text) :
    slugFrom inGap (c :: t) = if inGap then slugFrom true t else '-' :: slugFrom true t := by
  simp [slugFrom, hc]

theorem slug_cons (c : Char) (t : Text) :
    slug (c :: t) = hyphened c :: slugFrom (!isWord c) t := by
  cases hc : isWord c with
  | true => rw [slug, slugFrom_cons_of_word hc, hyphened_of_word hc, Bool.not_true]
  | false => simp [slug, slugFrom_cons_of_gap hc, hyphened_of_gap hc]

/-- A slug begins like its text, a gap with a hyphen. -/
theorem head?_slug (t : Text) : (slug t).head? = t.head?.map hyphened := by
  cases t with
  | nil => rfl
  | cons c t => simp [slug_cons]

/-- The last character written, when `d` came before. -/
theorem getLast?_getD_slugFrom {inGap : Bool} (hd : inGap = true → isWord d = false) (t : Text) :
    (slugFrom inGap t).getLast?.getD (hyphened d) = hyphened (t.getLast?.getD d) := by
  -- what is carried along: the hyphen of the current gap stands for the character before
  induction t generalizing inGap d with
  | nil => simp [slugFrom]
  | cons c t ih =>
    cases hc : isWord c with
    | true =>
      have hlast := @ih c false (by simp)
      simpa [slugFrom_cons_of_word hc, List.getLast?_cons, hyphened_of_word hc] using hlast
    | false =>
      have hlast := @ih c true (fun _ => hc)
      rw [hyphened_of_gap hc] at hlast
      rw [slugFrom_cons_of_gap hc]
      cases inGap with
      | true => simpa [List.getLast?_cons, hyphened_of_gap (hd rfl)] using hlast
      | false => simpa [List.getLast?_cons] using hlast

/-- A slug ends like its text, a gap with a hyphen. -/
theorem getLast?_slug (t : Text) : (slug t).getLast? = t.getLast?.map hyphened := by
  cases t with
  | nil => rfl
  | cons c t =>
    have hgap : (!isWord c) = true → isWord c = false := by simp
    rw [slug_cons, List.getLast?_cons, List.getLast?_cons, Option.map_some,
      getLast?_getD_slugFrom hgap]

theorem opensOutside_slug (t : Text) : opensOutside (slug t) = opensOutside t := by
  rw [opensOutside, head?_slug, opensOutside]
  cases t.head? with
  | none => rfl
  | some c => simp

theorem closesOutside_slug (t : Text) : closesOutside (slug t) = closesOutside t := by
  rw [closesOutside, getLast?_slug, closesOutside]
  cases t.getLast? with
  | none => rfl
  | some c => simp

end Ends

section Spelling

variable {runs : List Text}

theorem hyphen_cons_spelled (closes : Bool) (runs : List Text) :
    '-' :: spelled false closes runs = spelled true closes runs := by
  cases runs with
  | nil => rfl
  | cons r rs => simp [spelled]

/-- A word of one character before a gap. -/
theorem cons_spelled_of_gap {closes : Bool} (h : runs = [] → closes = true) (c : Char) :
    c :: spelled true closes runs = spelled false closes ([c] :: runs) := by
  cases runs with
  | nil => simp [spelled, h]
  | cons r rs => simp [spelled, join]

/-- One more character at the beginning of the first run. -/
theorem cons_spelled_of_word (hne : runs ≠ []) (closes : Bool) (c : Char) :
    c :: spelled false closes runs = spelled false closes (runs.modifyHead (c :: ·)) := by
  obtain ⟨r, rs, rfl⟩ := List.exists_cons_of_ne_nil hne
  cases rs with
  | nil => simp [spelled]
  | cons s rs => simp [spelled, join]

/-- What is written for a text is made of its runs and of what stands at its ends; a gap that has
its hyphen gets no other one. -/
theorem slugFrom_eq_spelled (inGap : Bool) (t : Text) :
    slugFrom inGap t = spelled (!inGap && opensOutside t) (closesOutside t) (wordRuns t) := by
  induction t generalizing inGap with
  | nil => simp [slugFrom, spelled, opensOutside]
  | cons c t ih =>
    cases hc : isWord c with
    | true =>
      -- what comes next decides whether a run ends here, goes on, or is the last one
      rw [slugFrom_cons_of_word hc, ih, wordRuns_cons_of_word hc]
      cases t with
      | nil => simp [spelled, opensOutside, closesOutside, hc]
      | cons d t =>
        rw [closesOutside_cons_cons]
        cases hd : isWord d with
        | true =>
          simpa [opensOutside, hc, hd] using
            cons_spelled_of_word (wordRuns_cons_ne_nil hd t) (closesOutside (d :: t)) c
        | false =>
          have hcloses : wordRuns (d :: t) = [] → closesOutside (d :: t) = true := fun h =>
            closesOutside_of_gap (by simp) (isWord_of_wordRuns_eq_nil h)
          simpa [opensOutside, hc, hd] using cons_spelled_of_gap hcloses c
    | false =>
      -- the gap belongs to no run; where the text ends with it, no run is left to be written
      have hclosing : spelled false (closesOutside t) (wordRuns t) =
          spelled false (closesOutside (c :: t)) (wordRuns t) := by
        cases t with
        | nil => rfl
        | cons d t => rw [closesOutside_cons_cons]
      have hrest : slugFrom true t = spelled false (closesOutside (c :: t)) (wordRuns t) := by
        rw [ih, Bool.not_true, Bool.false_and, hclosing]
      rw [slugFrom_cons_of_gap hc, wordRuns_cons_of_gap hc, hrest, hyphen_cons_spelled]
      cases inGap with
      | true => rfl
      | false => simp [opensOutside, hc]

/-- The slug of a text is made of its runs and of what stands at its ends. -/
theorem slug_eq_spelled (t : Text) :
    slug t = spelled (opensOutside t) (closesOutside t) (wordRuns t) := by
  simpa [slug] using slugFrom_eq_spelled false t

end Spelling

section NormalForm

variable {t u : Text}

theorem wordRuns_slugFrom (inGap : Bool) (t : Text) : wordRuns (slugFrom inGap t) = wordRuns t := by
  induction t generalizing inGap with
  | nil => rfl
  | cons c t ih =>
    cases hc : isWord c with
    | true =>
      have hnext : (slugFrom false t).head?.any isWord = t.head?.any isWord := by
        rw [← slug, head?_slug, Option.any_map]
        simp
      rw [slugFrom_cons_of_word hc, wordRuns_cons_of_word hc, wordRuns_cons_of_word hc, ih, hnext]
    | false =>
      rw [slugFrom_cons_of_gap hc, wordRuns_cons_of_gap hc]
      cases inGap with
      | true => exact ih true
      | false => exact (wordRuns_cons_of_gap isWord_hyphen _).trans (ih true)

/-- The runs of a text are those of its slug. -/
theorem alike_slug (t : Text) : Alike (slug t) t :=
  ⟨wordRuns_slugFrom false t, opensOutside_slug t, closesOutside_slug t⟩

/-- Two texts have one slug when they are alike, and only then. -/
theorem slug_eq_slug_iff : slug t = slug u ↔ Alike t u := by
  constructor
  · intro h
    have ht := alike_slug t
    have hu := alike_slug u
    rw [h] at ht
    exact ⟨ht.runs.symm.trans hu.runs, ht.opening.symm.trans hu.opening,
      ht.closing.symm.trans hu.closing⟩
  · intro h
    rw [slug_eq_spelled, slug_eq_spelled, h.runs, h.opening, h.closing]

example : slug "Map<K, V>".toList = slug "Map-K!V?".toList := by
  decide

theorem slug_slug (t : Text) : slug (slug t) = slug t :=
  slug_eq_slug_iff.2 (alike_slug t)

/-- Without its hyphens a slug is the word characters of its text. -/
theorem filter_slugFrom (inGap : Bool) (t : Text) :
    (slugFrom inGap t).filter (· ≠ '-') = t.filter isWord := by
  induction t generalizing inGap with
  | nil => rfl
  | cons c t ih =>
    cases hc : isWord c with
    | true =>
      have hne : c ≠ '-' := by
        rintro rfl
        simp [isWord_hyphen] at hc
      simpa [slugFrom_cons_of_word hc, hc, hne] using ih false
    | false =>
      rw [slugFrom_cons_of_gap hc]
      cases inGap with
      | true => simpa [hc] using ih true
      | false => simpa [hc] using ih true

/-- Word characters and single hyphens are left as they are. -/
theorem slugFrom_eq_self {inGap : Bool} (hchars : ∀ c ∈ t, isWord c = true ∨ c = '-')
    (hapart : ¬ ['-', '-'] <:+: t) (hnext : inGap = true → t.head? ≠ some '-') :
    slugFrom inGap t = t := by
  -- a gap that has its hyphen must not go on with another one: `hnext` carries this along
  induction t generalizing inGap with
  | nil => rfl
  | cons c t ih =>
    have hrest : ∀ c ∈ t, isWord c = true ∨ c = '-' := fun d hd =>
      hchars d (List.mem_cons_of_mem c hd)
    have hinfix : ¬ ['-', '-'] <:+: t := fun h => hapart (h.trans (List.infix_cons List.infix_rfl))
    rcases hchars c List.mem_cons_self with hc | rfl
    · rw [slugFrom_cons_of_word hc, ih hrest hinfix (by simp)]
    · have hopen : inGap = false := by
        cases inGap with
        | false => rfl
        | true => exact absurd rfl (hnext rfl)
      have hhead : t.head? ≠ some '-' := by
        intro h
        obtain ⟨rest, rfl⟩ := List.head?_eq_some_iff.1 h
        exact hapart ⟨[], rest, rfl⟩
      rw [slugFrom_cons_of_gap isWord_hyphen, hopen, ih hrest hinfix fun _ => hhead]
      rfl

/-- The slugs are the texts of word characters and single hyphens. -/
theorem slug_eq_self_iff :
    slug t = t ↔ (∀ c ∈ t, isWord c = true ∨ c = '-') ∧ ¬ ['-', '-'] <:+: t := by
  constructor
  · intro h
    rw [← h]
    exact ⟨fun _ hc => mem_slug hc, not_infix_slug t⟩
  · rintro ⟨hchars, hapart⟩
    exact slugFrom_eq_self hchars hapart (by simp)

end NormalForm

/-- What the slug of a text looks like. -/
structure SlugForm (t : Text) : Prop where
  /-- It holds word characters and hyphens. -/
  chars : ∀ c ∈ t.slug, isWord c = true ∨ c = '-'
  /-- No two hyphens follow each other. -/
  apart : ¬ ['-', '-'] <:+: t.slug
  /-- Without the hyphens, it is the word characters of the text in their order. -/
  words : t.slug.filter (· ≠ '-') = t.filter isWord
  /-- It begins with a hyphen when the text begins outside of words. -/
  opening : t.slug.head? = some '-' ↔ opensOutside t = true
  /-- It ends with a hyphen when the text ends outside of words. -/
  closing : t.slug.getLast? = some '-' ↔ closesOutside t = true
  /-- It is its own slug. -/
  again : t.slug.slug = t.slug
  /-- A text is a slug when it has such characters, no two hyphens following each other. -/
  normal : t.slug = t ↔ (∀ c ∈ t, isWord c = true ∨ c = '-') ∧ ¬ ['-', '-'] <:+: t

theorem slugForm (t : Text) : SlugForm t := by
  constructor
  case chars =>
    intro c hc
    exact mem_slug hc
  case apart => exact not_infix_slug t
  case words => exact filter_slugFrom false t
  case opening =>
    rw [head?_slug, opensOutside]
    cases t.head? with
    | none => simp
    | some c => simp [hyphened_eq_hyphen_iff]
  case closing =>
    rw [getLast?_slug, closesOutside]
    cases t.getLast? with
    | none => simp
    | some c => simp [hyphened_eq_hyphen_iff]
  case again => exact slug_slug t
  case normal => exact slug_eq_self_iff

end Text

end ApiAtlas
