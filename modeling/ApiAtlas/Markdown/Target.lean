import ApiAtlas.Markdown.Escape
import ApiAtlas.Text.Blank
import ApiAtlas.Text.Case

/-!
# Link targets

**Input.** What follows an opening bracket, in a running text or at the start of a block.

**Definitions.** A target is an address with an optional title.  It stands in parentheses behind
the text of a link, or in a definition of its own, `[label]: address "title"`; definitions are
found by the key of their label, which neither letter case nor the width of blanks changes.  In
angle brackets it is a link by itself.
Each reader here takes a text from its start and leaves the rest.
-/

namespace ApiAtlas

namespace Markdown

/-- Where a link leads. -/
structure Target where
  /-- The address, in the characters of addresses. -/
  address : Text
  /-- The title. -/
  title : Option Text
deriving DecidableEq, Repr, Inhabited

/-- Defined targets by the keys of their labels. -/
abbrev Targets := List (Text × Target)

namespace Target

section Labels

/-- The words of a text. -/
def words : Text → List Text
  | [] => []
  | c :: t =>
    if Text.isBlank c then words t
    else
      match t, words t with
      | d :: _, w :: ws => if Text.isBlank d then [c] :: w :: ws else (c :: w) :: ws
      | _, ws => [c] :: ws

/-- The key of a label. -/
def key (label : Text) : Text :=
  (Text.join [' '] (words label)).lower.upper

/-- The text up to the next closing bracket and what follows it.  There is no opening bracket in
between; a backslash takes the meaning of the character after it, and does not stand at the end of
a line. -/
def upToBracket? : Text → Option (Text × Text)
  | [] => none
  | ']' :: t => some ([], t)
  | '[' :: _ => none
  | ['\\'] => none
  | '\\' :: c :: t =>
    if c = '\n' then none
    else (upToBracket? t).map fun (l, rest) => ('\\' :: c :: l, rest)
  | c :: t => (upToBracket? t).map fun (l, rest) => (c :: l, rest)

/-- The most characters of a label, where a backslash and the one after it are one. -/
def labelRoom : Nat :=
  999

/-- The number of characters of a label. -/
def labelSize : Text → Nat
  | [] => 0
  | '\\' :: _ :: t => labelSize t + 1
  | _ :: t => labelSize t + 1

/-- A label and what follows its closing bracket, after the opening one. -/
def label? (t : Text) : Option (Text × Text) :=
  (upToBracket? t).filter fun (l, _) => labelSize l ≤ labelRoom

end Labels

section Addresses

/-- Whether the character is a space or a tab. -/
def isGap (c : Char) : Bool :=
  c == ' ' || c == '\t'

/-- Whether the character stands between the parts of a target: a blank of the basic set. -/
def isSpacing (c : Char) : Bool :=
  c == ' ' || ('\t' ≤ c && c ≤ '\r')

/-- The address between angle brackets, after the opening one. -/
def angled? : Text → Option (Text × Text)
  | [] => none
  | '>' :: t => some ([], t)
  | '<' :: _ => none
  | '\n' :: _ => none
  | '\\' :: c :: t =>
    if Text.isBasicMark c then (angled? t).map fun (u, rest) => ('\\' :: c :: u, rest)
    else (angled? (c :: t)).map fun (u, rest) => ('\\' :: u, rest)
  | c :: t => (angled? t).map fun (u, rest) => (c :: u, rest)

/-- Whether an address without brackets ends before the character. -/
def endsAddress (c : Char) : Bool :=
  c.toNat ≤ 32 || c.toNat == 127

/-- The most parentheses that an address has open at one place. -/
def deepestParenthesis : Nat :=
  20

/-- The address without brackets: up to a space, a control character or a parenthesis that closes
none of its own; `level` counts the open ones. -/
def bare? (level : Nat) : Text → Option (Text × Text)
  | [] => if level = 0 then some ([], []) else none
  | '\\' :: c :: t =>
    if Text.isBasicMark c then (bare? level t).map fun (u, rest) => ('\\' :: c :: u, rest)
    else (bare? level (c :: t)).map fun (u, rest) => ('\\' :: u, rest)
  | c :: t =>
    let on (r : Option (Text × Text)) := r.map fun (u, rest) => (c :: u, rest)
    if endsAddress c then if level = 0 then some ([], c :: t) else none
    else if c = '(' then if level < deepestParenthesis then on (bare? (level + 1) t) else none
    else if c = ')' then if level = 0 then some ([], c :: t) else on (bare? (level - 1) t)
    else on (bare? level t)

/-- An address, in angle brackets or without. -/
def location? : Text → Option (Text × Text)
  | '<' :: t => angled? t
  | t => bare? 0 t

/-- The text up to the mark `q`, where a backslash keeps punctuation from ending it, and a
parenthesis does not open inside of parentheses. -/
def quoted? (q : Char) : Text → Option (Text × Text)
  | [] => none
  | '\\' :: c :: t =>
    if Text.isBasicMark c then (quoted? q t).map fun (u, rest) => ('\\' :: c :: u, rest)
    else (quoted? q (c :: t)).map fun (u, rest) => ('\\' :: u, rest)
  | c :: t =>
    if c = q then some ([], t)
    else if q = ')' && c = '(' then none
    else (quoted? q t).map fun (u, rest) => (c :: u, rest)

/-- A title in quotes or parentheses. -/
def title? : Text → Option (Text × Text)
  | '"' :: t => quoted? '"' t
  | '\'' :: t => quoted? '\'' t
  | '(' :: t => quoted? ')' t
  | _ => none

/-- A title after blanks. -/
def spacedTitle? (t : Text) : Option (Text × Text) :=
  match t with
  | c :: _ => if isSpacing c then title? (t.dropWhile isSpacing) else none
  | [] => none

/-- The target of an address and a title; an empty title is none. -/
def make (location : Text) (title : Option Text) : Target :=
  ⟨Markdown.address (unescape location), (title.map unescape).filter (!·.isEmpty)⟩

/-- The target in parentheses, after the opening one. -/
def inline? (t : Text) : Option (Target × Text) :=
  (location? (t.dropWhile isSpacing)).bind fun (u, rest) =>
    let (name, rest) :=
      match spacedTitle? rest with
      | some (n, r) => (some n, r)
      | none => (none, rest)
    match rest.dropWhile isSpacing with
    | ')' :: rest => some (make u name, rest)
    | _ => none

end Addresses

section Bracketed

/-- Whether a character may stand in the scheme of an address. -/
def isSchemeChar (c : Char) : Bool :=
  c.isAlphanum || c == '.' || c == '+' || c == '-'

/-- Whether a text is an address with a scheme of 2 to 32 characters. -/
def hasScheme (t : Text) : Bool :=
  match t.span isSchemeChar with
  | (c :: more, ':' :: _) => c.isAlpha && 1 ≤ more.length && more.length ≤ 31
  | _ => false

/-- Whether a character may stand before the sign of a mail address. -/
def isMailboxChar (c : Char) : Bool :=
  c.isAlphanum || ".!#$%&'*+/=?^_`\x7b|\x7d~-".toList.contains c

/-- Whether a text is a part of the name of a host: letters and digits, with hyphens inside. -/
def isHostPart (t : Text) : Bool :=
  !t.isEmpty && t.length ≤ 63 && (t.all fun c => c.isAlphanum || c == '-') &&
    t.head? != some '-' && !Text.endsWith '-' t

/-- Whether a text is a mail address. -/
def isMail (t : Text) : Bool :=
  match t.span isMailboxChar with
  | (_ :: _, '@' :: host) => (Text.pieces '.' host).all isHostPart
  | _ => false

/-- A target that is a link by itself, in angle brackets: an address with a scheme, or a mail
address.  It comes with its text and with what follows it. -/
def alone? : Text → Option ((Text × Target) × Text)
  | '<' :: t =>
    match t.span fun c => !(c == '<' || c == '>' || c.toNat ≤ 32) with
    | (u, '>' :: rest) =>
      if hasScheme u then some ((u, ⟨Markdown.address u, none⟩), rest)
      else if isMail u then some ((u, ⟨Markdown.address ("mailto:".toList ++ u), none⟩), rest)
      else none
    | _ => none
  | _ => none

end Bracketed

section Definitions

/-- What follows the end of the line, when only spaces and tabs stand before it. -/
def lineEnd? (t : Text) : Option Text :=
  match t.dropWhile isGap with
  | '\n' :: rest => some rest
  | _ => none

/-- The text up to the next blank line; `atStart` says that a line begins here. -/
def paragraphOf (atStart : Bool) : Text → Text
  | [] => []
  | c :: t =>
    let blank := (c :: t).dropWhile fun c => isGap c || c == '\x0b' || c == '\x0c'
    if atStart && blank.head? == some '\n' then [] else c :: paragraphOf (c == '\n') t

/-- A title after blanks, which ends before the next blank line. -/
def definedTitle? (t : Text) : Option (Text × Text) :=
  let near := paragraphOf false t
  (spacedTitle? near).map fun (name, rest) => (name, rest ++ t.drop near.length)

/-- What follows the spaces and tabs of a line and of the beginning of the next one. -/
def skipBreak (t : Text) : Text :=
  match t.dropWhile isGap with
  | '\n' :: rest => rest.dropWhile isGap
  | rest => rest

/-- The target of a definition, after the colon, and the lines that follow.  The address cannot be
left out. -/
def defined? (t : Text) : Option (Target × Text) :=
  let start := skipBreak t
  (location? start).bind fun (u, rest) =>
    if rest.length = start.length then none
    else
      let titled := (definedTitle? rest).bind fun (name, r) =>
        (lineEnd? r).map fun after => (make u (some name), after)
      titled.orElse fun _ => (lineEnd? rest).map fun after => (make u none, after)

/-- A definition at the start of a text, with the lines that follow; its label is more than
blanks. -/
def definition? (t : Text) : Option ((Text × Target) × Text) :=
  match t.dropWhile (· == ' ') with
  | '[' :: t =>
    (label? t).bind fun (l, rest) =>
      match rest with
      | ':' :: rest =>
        if l.all Text.isBlank then none
        else (defined? rest).map fun (target, after) => ((key l, target), after)
      | _ => none
  | _ => none

end Definitions

end Target

namespace Targets

/-- The targets with one more; an earlier one of its key stays. -/
def define (ts : Targets) (key : Text) (target : Target) : Targets :=
  if ts.any fun d => d.1 == key then ts else ts ++ [(key, target)]

/-- The target that a label refers to. -/
def find? (ts : Targets) (label : Text) : Option Target :=
  List.lookup (Target.key label) ts

end Targets

end Markdown

end ApiAtlas
