import ApiAtlas.Markdown.Reference
import ApiAtlas.Payload.Encoding
import ApiAtlas.Text.Punctuation

/-!
# Characters with a meaning

**Input.** Texts that are read as Markdown or written as HTML.

**Definitions.** A backslash takes the meaning from the punctuation after it (`unescape`), HTML
needs references for four characters (`escape`), and a link target is written in the characters
of addresses alone (`percentEncode`).

**Results.** Escaped text has none of the characters that HTML reads as markup
(`escape_not_markup`).
-/

namespace ApiAtlas

namespace Markdown

section Defs

/-- The text with each backslash before punctuation removed. -/
def unescape : Text → Text
  | [] => []
  | '\\' :: c :: t => if Text.isBasicMark c then c :: unescape t else '\\' :: unescape (c :: t)
  | c :: t => c :: unescape t

/-- A character in HTML. -/
def escapeChar (c : Char) : Text :=
  if c = '&' then ['&', 'a', 'm', 'p', ';']
  else if c = '<' then ['&', 'l', 't', ';']
  else if c = '>' then ['&', 'g', 't', ';']
  else if c = '"' then ['&', 'q', 'u', 'o', 't', ';']
  else [c]

/-- The text in HTML. -/
def escape (t : Text) : Text :=
  t.flatMap escapeChar

/-- The text in HTML, where references that it has already stay what they are. -/
def escapeOnce (t : Text) : Text :=
  escape (resolve t)

/-- A byte with a percent sign and two digits. -/
def percentByte (b : UInt8) : Text :=
  ['%', Text.hexDigit (b.toNat / 16), Text.hexDigit (b.toNat % 16)]

/-- Whether a character stands for itself in an address. -/
def isAddressChar (c : Char) : Bool :=
  ('a' ≤ c && c ≤ 'z') || ('A' ≤ c && c ≤ 'Z') || ('0' ≤ c && c ≤ '9') ||
    "_.-~:/?#@!$&()*+,;=%".toList.contains c

/-- The text in the characters of addresses. -/
def percentEncode (t : Text) : Text :=
  t.flatMap fun c => if isAddressChar c then [c] else (Encoding.encodeChar c).flatMap percentByte

/-- The address of a link. -/
def address (t : Text) : Text :=
  percentEncode (resolve t)

end Defs

section Laws

theorem escapeChar_not_markup (c d : Char) (h : d ∈ escapeChar c) :
    d ≠ '<' ∧ d ≠ '>' ∧ d ≠ '"' := by
  simp only [escapeChar] at h
  split at h
  · simp only [List.mem_cons, List.not_mem_nil, or_false] at h
    rcases h with rfl | rfl | rfl | rfl | rfl <;> decide
  · split at h
    · simp only [List.mem_cons, List.not_mem_nil, or_false] at h
      rcases h with rfl | rfl | rfl | rfl <;> decide
    · split at h
      · simp only [List.mem_cons, List.not_mem_nil, or_false] at h
        rcases h with rfl | rfl | rfl | rfl <;> decide
      · split at h
        · simp only [List.mem_cons, List.not_mem_nil, or_false] at h
          rcases h with rfl | rfl | rfl | rfl | rfl | rfl <;> decide
        · rw [List.mem_singleton.1 h]
          exact ⟨by assumption, by assumption, by assumption⟩

/-- Escaped text has no brackets of tags and no quotes. -/
theorem escape_not_markup (t : Text) (d : Char) (h : d ∈ escape t) :
    d ≠ '<' ∧ d ≠ '>' ∧ d ≠ '"' := by
  obtain ⟨c, _, hc⟩ := List.mem_flatMap.1 h
  exact escapeChar_not_markup c d hc

end Laws

end Markdown

end ApiAtlas
