/-!
# Text

**Input.** Titles, labels, comments, paths and whole pages are all plain sequences of characters.

**Definitions.** `Text` is a list of characters, so that recursion and induction over a text are
recursion and induction over a list.  The operations here are the ones that need no character
table: joining, cutting a leading word, trimming by a class of characters, replacing one
character, splitting into lines and searching for a substring.

**Results.** Trimming keeps no character of the class at the trimmed end
(`trimStart_head_not`), cutting a leading word gives back what followed it (`cut?_append`), and
cutting at a character undoes joining with it (`pieces_join`).
-/

namespace ApiAtlas

/-- A text is the list of its characters. -/
abbrev Text := List Char

namespace Text

section Defs

/-- The texts of a list one after another, with `sep` between neighbours. -/
def join (sep : Text) : List Text → Text
  | [] => []
  | [t] => t
  | t :: u :: ts => t ++ sep ++ join sep (u :: ts)

/-- What follows the leading word `w`, when the text begins with it. -/
def cut? : (w : Text) → Text → Option Text
  | [], t => some t
  | _ :: _, [] => none
  | a :: w, b :: t => if a = b then cut? w t else none

/-- Whether the text begins with the word `w`. -/
def beginsWith (w t : Text) : Bool :=
  (cut? w t).isSome

/-- The text without the leading word `w`; a text that does not begin with it is unchanged. -/
def cut (w t : Text) : Text :=
  (cut? w t).getD t

/-- The text without its leading characters of class `p`. -/
def trimStart (p : Char → Bool) (t : Text) : Text :=
  t.dropWhile p

/-- The text without its trailing characters of class `p`. -/
def trimEnd (p : Char → Bool) (t : Text) : Text :=
  (t.reverse.dropWhile p).reverse

/-- The text without its leading and trailing characters of class `p`. -/
def trim (p : Char → Bool) (t : Text) : Text :=
  trimEnd p (trimStart p t)

/-- Every occurrence of the character `a` replaced by the text `u`. -/
def replaceChar (a : Char) (u : Text) : Text → Text
  | [] => []
  | c :: t => if c = a then u ++ replaceChar a u t else c :: replaceChar a u t

/-- The pieces between the occurrences of the character `a`; there is always at least one. -/
def pieces (a : Char) : Text → List Text
  | [] => [[]]
  | c :: t =>
    if c = a then [] :: pieces a t
    else
      match pieces a t with
      | [] => [[c]]
      | p :: ps => (c :: p) :: ps

/-- Whether `w` occurs somewhere in the text. -/
def occursIn (w : Text) : Text → Bool
  | [] => w.isEmpty
  | c :: t => beginsWith w (c :: t) || occursIn w t

/-- Whether the last character is `a`. -/
def endsWith (a : Char) (t : Text) : Bool :=
  t.getLast? == some a

/-- The decimal digits of a natural number. -/
def ofNat (n : Nat) : Text :=
  Nat.toDigits 10 n

/-- The decimal digits of an integer, with a minus sign below zero. -/
def ofInt : Int → Text
  | .ofNat n => ofNat n
  | .negSucc n => '-' :: ofNat (n + 1)

/-- Line breaks in the one-character form: a carriage return, with the line feed that may follow
it, becomes a line feed. -/
def unifyBreaks : Text → Text
  | [] => []
  | '\r' :: '\n' :: t => '\n' :: unifyBreaks t
  | c :: t => (if c = '\r' then '\n' else c) :: unifyBreaks t

end Defs

section Laws

@[simp] theorem join_nil (sep : Text) : join sep [] = [] := rfl

@[simp] theorem join_singleton (sep t : Text) : join sep [t] = t := rfl

@[simp] theorem cut?_nil (t : Text) : cut? [] t = some t := by
  cases t <;> rfl

/-- A text that begins with `w` is cut to what follows `w`. -/
@[simp] theorem cut?_append (w t : Text) : cut? w (w ++ t) = some t := by
  induction w with
  | nil => simp
  | cons a w ih => simp [cut?, ih]

/-- Only a text that begins with `w` can be cut by it. -/
theorem eq_append_of_cut? {w t u : Text} (h : cut? w t = some u) : t = w ++ u := by
  induction w generalizing t with
  | nil => simpa using h
  | cons a w ih =>
    cases t with
    | nil => simp [cut?] at h
    | cons b t =>
      by_cases hab : a = b
      · subst hab
        simp only [cut?, if_true] at h
        simp [ih h]
      · simp [cut?, hab] at h

theorem beginsWith_iff_prefix {w t : Text} : beginsWith w t = true ↔ w <+: t := by
  rw [beginsWith, Option.isSome_iff_exists]
  constructor
  · rintro ⟨u, hu⟩
    exact ⟨u, (eq_append_of_cut? hu).symm⟩
  · rintro ⟨u, rfl⟩
    exact ⟨u, cut?_append w u⟩

/-- Occurring somewhere is being an infix. -/
theorem occursIn_iff_infix {w t : Text} : occursIn w t = true ↔ w <:+: t := by
  induction t with
  | nil => simp [occursIn]
  | cons c t ih =>
    rw [occursIn, Bool.or_eq_true, beginsWith_iff_prefix, ih, List.infix_cons_iff]

theorem join_eq_intercalate (sep : Text) : ∀ ts : List Text, join sep ts = sep.intercalate ts
  | [] => rfl
  | [_] => by simp
  | t :: u :: ts => by
    rw [join, join_eq_intercalate sep (u :: ts)]
    simp [List.intercalate]

theorem pieces_eq_splitOn (a : Char) (t : Text) : pieces a t = t.splitOn a := by
  induction t with
  | nil => rfl
  | cons c t ih =>
    rw [pieces, ih, List.splitOn_eq_splitOnP, List.splitOn_eq_splitOnP,
      List.splitOnP_cons_eq_if_modifyHead]
    by_cases hc : c = a
    · simp [hc]
    · obtain ⟨p, ps, hps⟩ := List.exists_cons_of_ne_nil (List.splitOnP_ne_nil (· == a) t)
      simp [hc, hps]

/-- The pieces before and after an occurrence. -/
theorem pieces_append_cons (a : Char) (t u : Text) :
    pieces a (t ++ a :: u) = pieces a t ++ pieces a u := by
  simp only [pieces_eq_splitOn, List.splitOn_eq_splitOnP]
  exact List.splitOnP_append_cons t u (by simp)

/-- Texts that are joined by a character which none of them holds are the pieces of the whole. -/
theorem pieces_join {a : Char} {ts : List Text} (hne : ts ≠ []) (h : ∀ t ∈ ts, a ∉ t) :
    pieces a (join [a] ts) = ts := by
  rw [pieces_eq_splitOn, join_eq_intercalate]
  exact List.splitOn_intercalate a h hne

/-- No piece holds the character that divides the pieces. -/
theorem not_mem_of_mem_pieces {a : Char} {t piece : Text} (h : piece ∈ pieces a t) : a ∉ piece := by
  induction t generalizing piece with
  | nil =>
      simp only [pieces, List.mem_singleton] at h
      simp [h]
  | cons c t ih =>
      by_cases hc : c = a
      · rw [pieces, if_pos hc] at h
        rcases List.mem_cons.1 h with rfl | h
        · simp
        · exact ih h
      · rw [pieces, if_neg hc] at h
        split at h
        · rw [List.mem_singleton.1 h]
          simpa using Ne.symm hc
        · next p ps hps =>
            rcases List.mem_cons.1 h with rfl | h
            · have hp : a ∉ p := ih (by simp [hps])
              simp [Ne.symm hc, hp]
            · exact ih (by simp [hps, h])

/-- Replacing a character by itself changes nothing. -/
@[simp] theorem replaceChar_self (a : Char) (t : Text) : replaceChar a [a] t = t := by
  induction t with
  | nil => rfl
  | cons c t ih =>
    by_cases hc : c = a
    · simp [replaceChar, hc, ih]
    · simp [replaceChar, hc, ih]

/-- Replacing a character by another one goes character by character. -/
theorem replaceChar_singleton (a b : Char) (t : Text) :
    replaceChar a [b] t = t.map fun c => if c = a then b else c := by
  induction t with
  | nil => rfl
  | cons c t ih =>
    by_cases hc : c = a
    · simp [replaceChar, hc, ih]
    · simp [replaceChar, hc, ih]

/-- A text with nothing of the class in front keeps its first character when trimmed. -/
theorem trimStart_head_not (p : Char → Bool) (t : Text) :
    ∀ c ∈ (trimStart p t).head?, p c = false := by
  induction t with
  | nil => simp [trimStart]
  | cons a t ih =>
    intro c hc
    by_cases ha : p a
    · exact ih c (by simpa [trimStart, List.dropWhile_cons, ha] using hc)
    · have : a = c := by simpa [trimStart, List.dropWhile_cons, ha] using hc
      simpa [this] using ha

end Laws

end Text

end ApiAtlas
