import ApiAtlas.Payload.Json

/-!
# Times in YAML documents

**Input.** A text that is written like a day, or like a day with a time of day and a distance from
universal time.

**Definitions.** `isTimestamp` tells whether a plain text is a time; a day alone then needs two digits
for its month and its day.  `timeOf` reads a time that a tag calls one, where one digit is enough,
and refuses days that the calendar does not have.
-/

namespace ApiAtlas

namespace Yaml

/-- A number of digits within bounds, and the rest. -/
def digitsBetween? (least most : Nat) (t : Text) : Option (Text × Text) :=
  let ds := (t.takeWhile Char.isDigit).take most
  if ds.length < least then none else some (ds, t.drop ds.length)

/-- The rest after a character. -/
def after? (c : Char) : Text → Option Text
  | a :: t => if a == c then some t else none
  | [] => none

/-- Whether a character is a space or a tab. -/
def isSpacing (c : Char) : Bool :=
  c == ' ' || c == '\t'

/-- The distance from universal time in minutes, at the end of a text. -/
def zone? (t : Text) : Option (Option Int) :=
  match t.dropWhile isSpacing with
  | [] => if t.isEmpty then some none else none
  | ['Z'] => some (some 0)
  | s :: r =>
    if s == '-' || s == '+' then do
      let (h, r) ← digitsBetween? 1 2 r
      let m ←
        match r with
        | [] => some []
        | _ => do
          let r ← after? ':' r
          let (m, r) ← digitsBetween? 2 2 r
          if r.isEmpty then some m else none
      let size : Int := Json.natOf h * 60 + Json.natOf m
      return some (if s == '-' then -size else size)
    else none

/-- A day, or a day with a time, written in digits; nothing when a text is not written so. -/
def timestamp? (t : Text) : Option (Day ⊕ Moment) := do
  let (y, r) ← digitsBetween? 4 4 t
  let r ← after? '-' r
  let (mo, r) ← digitsBetween? 1 2 r
  let r ← after? '-' r
  let (d, r) ← digitsBetween? 1 2 r
  let day : Day := ⟨Json.natOf y, Json.natOf mo, Json.natOf d⟩
  match r with
  | [] => return .inl day
  | c :: rest =>
    let r ←
      if c == 'T' || c == 't' then some rest
      else if isSpacing c then some (rest.dropWhile isSpacing)
      else none
    let (h, r) ← digitsBetween? 1 2 r
    let r ← after? ':' r
    let (mi, r) ← digitsBetween? 2 2 r
    let r ← after? ':' r
    let (s, r) ← digitsBetween? 2 2 r
    let (fraction, r) :=
      match r with
      | '.' :: r => r.span Char.isDigit
      | r => ([], r)
    let micro := Json.natOf ((fraction ++ List.replicate 6 '0').take 6)
    let offset ← zone? r
    return .inr ⟨day, Json.natOf h, Json.natOf mi, Json.natOf s, micro, offset⟩

/-- Whether a plain text is a time: a day alone has ten characters. -/
def isTimestamp (t : Text) : Bool :=
  match timestamp? t with
  | some (.inl _) => t.length == 10
  | some (.inr _) => true
  | none => false

/-- The time that a text names. -/
def timeOf (t : Text) : Except Defect Value :=
  match timestamp? t with
  | none => .error .notTime
  | some (.inl d) => if d.isValid then .ok (.day d) else .error .noSuchValue
  | some (.inr m) => if m.isValid then .ok (.moment m) else .error .noSuchValue

end Yaml

end ApiAtlas
