import ApiAtlas.Text.Basic

/-!
# Control sequences

**Input.** A text that is about to be shown to a person.  Titles come from files, so such a text may
hold sequences that make a terminal change its colours or move.

**Definitions.** A control sequence is the escape character, an opening bracket, parameters made of
digits, semicolons and question marks, and one letter.  `Text.dropControls` leaves the sequences
out, from left to right; what stands around a sequence is not looked at again.

**Results.** Nothing is added and nothing changes its place (`dropControls_sublist`), and a text
without the escape character is kept as it is (`dropControls_eq_self`).
-/

namespace ApiAtlas

namespace Text

section Controls

/-- The character that begins a control sequence. -/
def escapeMark : Char :=
  '\x1b'

/-- Whether a character may stand among the parameters of a control sequence. -/
def isControlParameter (c : Char) : Bool :=
  c.isDigit || c == ';' || c == '?'

/-- What follows a control sequence, given what follows its escape character. -/
def afterControl? : Text → Option Text
  | '[' :: t =>
    match t.dropWhile isControlParameter with
    | c :: rest => if c.isAlpha then some rest else none
    | [] => none
  | _ => none

/-- A control sequence is followed by an end of the text. -/
theorem suffix_of_afterControl? {t rest : Text} (h : afterControl? t = some rest) :
    rest <:+ t := by
  unfold afterControl? at h
  split at h
  · next t =>
    split at h
    · next c _ hr =>
      split at h
      · cases h
        have hd : rest <:+ t.dropWhile isControlParameter := hr ▸ List.suffix_cons c rest
        exact (hd.trans (List.dropWhile_suffix _)).trans (List.suffix_cons _ _)
      · cases h
    · cases h
  · cases h

/-- The text without its control sequences. -/
def dropControls : Text → Text
  | [] => []
  | c :: t =>
    if c = escapeMark then
      match h : afterControl? t with
      | some rest =>
        have := (suffix_of_afterControl? h).length_le
        dropControls rest
      | none => c :: dropControls t
    else c :: dropControls t
termination_by t => t.length

end Controls

section Laws

/-- Leaving out control sequences adds nothing and keeps the order. -/
theorem dropControls_sublist (t : Text) : (dropControls t).Sublist t := by
  fun_induction dropControls t with
  | case1 => exact List.Sublist.slnil
  | case2 t rest h _ ih => exact (ih.trans (suffix_of_afterControl? h).sublist).cons _
  | case3 t h ih => exact ih.cons_cons _
  | case4 c t h ih => exact ih.cons_cons _

/-- A text without the escape character has nothing to leave out. -/
theorem dropControls_eq_self {t : Text} (h : escapeMark ∉ t) : dropControls t = t := by
  fun_induction dropControls t with
  | case1 => rfl
  | case2 t rest hr _ ih => simp at h
  | case3 t hr ih => simp at h
  | case4 c t hc ih => simp [ih fun ht => h (List.mem_cons_of_mem _ ht)]

end Laws

end Text

end ApiAtlas
