import ApiAtlas.Payload.Yaml.Offer
import ApiAtlas.Payload.Yaml.Type

/-!
# Values of YAML documents

**Input.** The tree of a document.

**Algorithm.** Collections are filled round by round: first the document, then the collections in it,
then those inside them.  So of several failures the one in the earliest round counts, and in a
round the first one.  A text fails when it is met, and a collection of the wrong shape one round
later, when it is filled.

**Definitions.** The key `<<` brings in the entries of other mappings, before those of the mapping
itself.  Ordered mappings become lists of pairs.  The value of a collection with an anchor is made
once and stands wherever the collection is named (`endedValues`).  Where a collection is named inside
itself a copy stands, and in that copy another one, down to a depth that no reader passes
(`Document.copies`).
-/

namespace ApiAtlas

namespace Yaml

open Payload (Failure)

/-- What is known of a collection that is around the place where it is named. -/
structure Copy where
  /-- Its value. -/
  value : Attempt Value
  /-- Whether it is a mapping. -/
  isMapping : Bool
  /-- Whether it can be merged into a mapping. -/
  isMergeable : Bool
  /-- What it brings into a mapping. -/
  offer : Thunk Offer
  /-- The pair that it is, when it has one entry. -/
  pair : Thunk (Attempt Value)

/-- What the value of a node depends on. -/
structure Context where
  /-- Whether collections carry marks. -/
  marks : Bool
  /-- The values of the collections that have ended, by their places. -/
  ended : List (Nat × Attempt Value)
  /-- The collections that can be named inside themselves, by their places. -/
  copies : List (Nat × Copy)

section Merging

/-- Whether a node is a mapping. -/
def isMapping (c : Context) : Node → Bool
  | .mapping .. => true
  | .again _ n => isMapping c n
  | .back place => (c.copies.lookup place).elim true Copy.isMapping
  | _ => false

mutual

/-- Whether all merge keys of a mapping bring in mappings. -/
def isMergeable (c : Context) : List (Node × Node) → Bool
  | [] => true
  | (k, v) :: es => (typeOf k != .merge || bringsMappings c v) && isMergeable c es

/-- Whether a node is a mapping, or a sequence of mappings, to bring in. -/
def bringsMappings (c : Context) : Node → Bool
  | .scalar .. => false
  | .sequence _ _ items => allMappings c items
  | .mapping _ _ es => isMergeable c es
  | .again _ n => bringsMappings c n
  | .back place => (c.copies.lookup place).elim true Copy.isMergeable

/-- Whether all nodes are mappings to bring in. -/
def allMappings (c : Context) : List Node → Bool
  | [] => true
  | n :: ns => isMapping c n && bringsMappings c n && allMappings c ns

end

end Merging

section Values

/-- The value of a collection, with a mark when marks are asked for.  The mark of a collection is its
place, and that of a pair in an ordered mapping is the place of the mapping and its own number. -/
def marked (c : Context) (mark : Nat × Nat) (v : Value) : Value :=
  if c.marks then .shared mark v else v

/-- What stands for a collection at the end of the copies: a collection too, so that it is no key. -/
def uncopied : Value :=
  .list []

/-- The key of an entry: a scalar, and the default key as it is written. -/
def keyOf (k : Node) (v : Attempt Value) : Attempt Value :=
  if typeOf k == .default then .now ((textOf k).map .str)
  else
    match v with
    | .ok v => if v.isScalar then .ok v else .refuse
    | .error m => if m.rounds == 0 then .error m else .refuse

mutual

/-- The value of a node. -/
def value (c : Context) : Node → Attempt Value
  | .scalar tag t =>
    match typeOf (.scalar tag t) with
    | .seq | .omap | .pairs | .set | .map => .later .refuse
    | type => .now (scalarValue type t)
  | .sequence place tag items =>
    match typeWith .seq tag with
    | .seq =>
      .later ((Attempt.all (values c items)).map fun vs => marked c (place, 0) (.list vs))
    | .omap | .pairs =>
      .later ((Attempt.all (pairs c place 1 items)).map fun vs => marked c (place, 0) (.list vs))
    | .set | .map => .later .refuse
    | _ => .refuse
  | .mapping place tag es =>
    let filled : Attempt Entries :=
      if isMergeable c es then
        let offer := Offer.mapping place (ownEntries c es) (mergeOffers c es)
        (Attempt.all (offer.contents [])).map Entries.ofList
      else .refuse
    match typeWith .map tag with
    | .map => .later (filled.map fun es => marked c (place, 0) (.object es))
    | .set => .later (filled.map fun es => marked c (place, 0) (.set (es.map Prod.fst)))
    | .seq | .omap | .pairs => .later .refuse
    | type =>
      match textOf (.mapping place tag es) with
      | .error f => .now (.error f)
      | .ok t =>
        if type == .timestamp then .now (.error (.defective .notText)) else .now (scalarValue type t)
  | .again place n =>
    match c.ended.lookup place with
    | some v => v
    | none => value c n
  | .back place => (c.copies.lookup place).elim (.ok uncopied) Copy.value

/-- The values of nodes. -/
def values (c : Context) : List Node → List (Attempt Value)
  | [] => []
  | n :: ns => value c n :: values c ns

/-- The pair of a node that is a mapping of one entry. -/
def pair (c : Context) : Node → Attempt Value
  | .mapping _ _ [(k, v)] =>
    (Attempt.both (value c k) (value c v)).map fun (a, b) => .pair a b
  | .again _ n => pair c n
  | .back place => (c.copies.lookup place).elim .refuse fun copy => copy.pair.get
  | _ => .refuse

/-- The pairs of nodes, counted from `number`. -/
def pairs (c : Context) (place number : Nat) : List Node → List (Attempt Value)
  | [] => []
  | n :: ns => (pair c n).map (marked c (place, number)) :: pairs c place (number + 1) ns

/-- The entries of a mapping that are written in it. -/
def ownEntries (c : Context) : List (Node × Node) → Contents
  | [] => []
  | (k, v) :: es =>
    if typeOf k == .merge then ownEntries c es
    else Attempt.both (keyOf k (value c k)) (value c v) :: ownEntries c es

/-- What the merge keys of a mapping name. -/
def mergeOffers (c : Context) : List (Node × Node) → List Offer
  | [] => []
  | (k, v) :: es => if typeOf k == .merge then offer c v :: mergeOffers c es else mergeOffers c es

/-- What a node offers to a mapping. -/
def offer (c : Context) : Node → Offer
  | .scalar .. => .nothing
  | .sequence _ _ items => .several (offers c items)
  | .mapping place _ es => .mapping place (ownEntries c es) (mergeOffers c es)
  | .again _ n => offer c n
  | .back place => .copied place ((c.copies.lookup place).elim .nothing fun copy => copy.offer.get)

/-- What nodes offer to a mapping. -/
def offers (c : Context) : List Node → List Offer
  | [] => []
  | n :: ns => offer c n :: offers c ns

end

end Values

section Documents

/-- The values of collections, of which the one that ends last stands in front.  Each of them is made
once, from those that end before it. -/
def endedValues (marks : Bool) (copies : List (Nat × Copy)) :
    List (Nat × Node) → List (Nat × Attempt Value)
  | [] => []
  | (place, n) :: before =>
    let ended := endedValues marks copies before
    (place, value ⟨marks, ended, copies⟩ n) :: ended

/-- What is known of the collection at a place in a context. -/
def Context.copy (c : Context) (place : Nat) (n : Node) : Copy where
  value :=
    match c.ended.lookup place with
    | some v => v
    | none => value c n
  isMapping := isMapping c n
  isMergeable := bringsMappings c n
  offer := Thunk.mk fun _ => offer c n
  pair := Thunk.mk fun _ => pair c n

namespace Document

/-- The context of a document over copies of its collections. -/
def context (d : Document) (copies : List (Nat × Copy)) : Context :=
  ⟨d.isCyclic, endedValues d.isCyclic copies d.collections, copies⟩

/-- Copies of the collections with anchors, with copies in them down to a depth of `n`. -/
def copies (d : Document) : Nat → List (Nat × Copy)
  | 0 => []
  | n + 1 =>
    let c := d.context (d.copies n)
    d.collections.map fun (place, n) => (place, c.copy place n)

/-- How deep copies go.  Following merge keys stops at a mapping that is followed already, a reader
that looks for records stops at a collection that it is in, and so does one that shows what it finds
there; each of the three passes every collection at most once. -/
def depth (d : Document) : Nat :=
  if d.isCyclic then 3 * d.collections.length + 3 else 0

/-- The value of a document. -/
def value (d : Document) : Except Failure Value :=
  (Yaml.value (d.context (d.copies d.depth)) d.root).mapError Mishap.failure

end Document

/-- The value of a text with at most one document. -/
def parse (t : Text) : Except Failure Value :=
  (document t).bind Document.value

/-- The value of a document given by its bytes. -/
def parseBytes (bytes : Bytes) : Except Failure Value :=
  (Payload.orUnreadable ((Encoding.yamlEncoding bytes).decode? false bytes)).bind parse

end Documents

end Yaml

end ApiAtlas
