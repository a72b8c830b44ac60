import ApiAtlas.Text.CaseMap

/-!
# Letter case

**Input.** Any text.

**Algorithm.** A character changes case by itself, with one exception: a capital sigma becomes a
final sigma at the end of a word, that is, when the nearest character before it that can decide
is cased and the nearest one after it is not.  Title case capitalises a character that does not
follow a cased one and lowers every other.
-/

namespace ApiAtlas

namespace Text

section Defs

/-- Whether a character has case. -/
def isCased (c : Char) : Bool :=
  casedRanges.has c.toNat

/-- Whether the search for a cased neighbour passes over a character. -/
def isCaseIgnorable (c : Char) : Bool :=
  caseIgnorableRanges.has c.toNat

/-- Whether the first character that is not passed over is cased. -/
def meetsCased (t : Text) : Bool :=
  match t.dropWhile isCaseIgnorable with
  | [] => false
  | c :: _ => isCased c

/-- A character in lower case, apart from the rule for a final sigma. -/
def lowerChar (c : Char) : Text :=
  if c.toNat < 128 then [c.toLower] else mapped lowerRuns lowerExpansions c

/-- A character in upper case. -/
def upperChar (c : Char) : Text :=
  if c.toNat < 128 then [c.toUpper] else mapped upperRuns upperExpansions c

/-- A character in title case. -/
def titleChar (c : Char) : Text :=
  match titleExpansions.lookup c.toNat, titleRuns.image? c.toNat with
  | some ns, _ => ns.map Char.ofNat
  | none, some n => [Char.ofNat n]
  | none, none => upperChar c

/-- A character in lower case, given what precedes it (nearest first) and what follows it. -/
def lowerBetween (seen : Text) (c : Char) (rest : Text) : Text :=
  if c = 'Σ' then
    [if meetsCased seen && !meetsCased rest then 'ς' else 'σ']
  else lowerChar c

/-- A text in lower case, given what precedes it, nearest first. -/
def lowerAfter (seen : Text) : Text → Text
  | [] => []
  | c :: t => lowerBetween seen c t ++ lowerAfter (c :: seen) t

/-- A text in lower case. -/
def lower (t : Text) : Text :=
  lowerAfter [] t

/-- A text in upper case. -/
def upper (t : Text) : Text :=
  t.flatMap upperChar

/-- A text in title case, given what precedes it, nearest first. -/
def titleAfter (seen : Text) : Text → Text
  | [] => []
  | c :: t =>
    (match seen with
      | p :: _ => if isCased p then lowerBetween seen c t else titleChar c
      | [] => titleChar c) ++ titleAfter (c :: seen) t

/-- A text in title case. -/
def title (t : Text) : Text :=
  titleAfter [] t

end Defs

end Text

end ApiAtlas
