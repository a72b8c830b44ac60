import ApiAtlas.Payload.Yaml.Token

/-!
# YAML documents as trees

**Input.** The tokens of a text.

**Algorithm.** Recursive descent by the grammar of YAML: collections in blocks and in brackets,
properties before a node, and texts that may be missing.  An alias stands for the node with its
anchor.  Inside the node that it names an alias refers back to that node, which is known only when
it ends.  The number of steps is bounded by the number of tokens.

**Definitions.** A `Node` is a text, a sequence or a mapping, with its tag, or a reference to a
collection that stands before it or around it.  `document` reads a text with at most one document;
a text without any is an empty document.
-/

namespace ApiAtlas

namespace Yaml

open Payload (Failure)

/-- What a node says about its type. -/
inductive Tag
  | plain
  | text
  | collection
  | given (name : Text)
deriving DecidableEq, Repr

/-- A node of a document.  A collection has a place of its own in the document, by which it is
referred to. -/
inductive Node
  | scalar (tag : Tag) (text : Text)
  | sequence (place : Nat) (tag : Tag) (items : List Node)
  | mapping (place : Nat) (tag : Tag) (entries : List (Node × Node))
  /-- The collection at a place before this one. -/
  | again (place : Nat) (collection : Node)
  /-- The collection at a place around this one. -/
  | back (place : Nat)
deriving Inhabited

namespace Node

/-- The node where nothing is written. -/
def empty : Node :=
  .scalar .plain []

/-- The place of a collection. -/
def place? : Node → Option Nat
  | scalar .. => none
  | sequence place .. | mapping place .. | again place _ | back place => some place

/-- A node that is referred to after its end. -/
def repeated (n : Node) : Node :=
  match n.place? with
  | some place => .again place n
  | none => n

mutual

/-- Whether a node has a reference back in it. -/
def hasBack : Node → Bool
  | .scalar .. | .again .. => false
  | .sequence _ _ items => hasBackAmong items
  | .mapping _ _ es => hasBackInEntries es
  | .back _ => true

/-- Whether some node has a reference back in it. -/
def hasBackAmong : List Node → Bool
  | [] => false
  | n :: ns => n.hasBack || hasBackAmong ns

/-- Whether some entry has a reference back in it. -/
def hasBackInEntries : List (Node × Node) → Bool
  | [] => false
  | (k, v) :: es => k.hasBack || v.hasBack || hasBackInEntries es

end

end Node

/-- A document: its node, and the nodes with anchors. -/
structure Document where
  /-- The node of the document. -/
  root : Node
  /-- The nodes with anchors, the one that ends last in front. -/
  anchors : List (Text × Node)

namespace Document

/-- The collections with anchors by their places, the one that ends last in front. -/
def collections (d : Document) : List (Nat × Node) :=
  d.anchors.filterMap fun (_, n) => n.place?.map (·, n)

/-- Whether some collection contains itself. -/
def isCyclic (d : Document) : Bool :=
  d.root.hasBack

end Document

/-- The tokens that are still to be read, and the nodes with anchors. -/
structure Reading where
  /-- The tokens that are still to be read. -/
  tokens : List Token
  /-- The nodes with anchors so far. -/
  anchors : List (Text × Node)
  /-- The anchors of the nodes that are being read, with their places. -/
  opened : List (Text × Nat)

/-- The abbreviations of tags. -/
abbrev Handles := List (Text × Text)

/-- The abbreviations that hold without a directive. -/
def standardHandles : Handles :=
  [(['!'], ['!']), (['!', '!'], "tag:yaml.org,2002:".toList)]

/-- What stands before a node. -/
structure Properties where
  /-- The name of its anchor. -/
  anchor : Option Text
  /-- The full name of its tag. -/
  tag : Option Text

namespace Reading

section Tokens

/-- The reading without its next token. -/
def next (r : Reading) : Reading :=
  { r with tokens := r.tokens.tail }

/-- Why the next token cannot be used: the text could not be divided there, or the token does not
fit. -/
def failure (r : Reading) : Failure :=
  match r.tokens with
  | .failure f :: _ => f
  | _ => .unreadable

/-- Whether the next token is one of the given ones, or there is none. -/
def atAny (r : Reading) (ts : List Token) : Bool :=
  r.tokens.head?.elim true ts.contains

end Tokens

section Properties

/-- The full name of a tag. -/
def fullTag (handles : Handles) (t : TagName) : Except Failure Text :=
  match t.handle with
  | none => .ok t.suffix
  | some h => Payload.orUnreadable ((handles.lookup h).map (· ++ t.suffix))

/-- An anchor and a tag before a node, in either order. -/
def properties (handles : Handles) (r : Reading) : Except Failure (Properties × Reading) :=
  match r.tokens with
  | .anchor a :: .tag t :: rest
  | .tag t :: .anchor a :: rest =>
    (fullTag handles t).map fun t => (⟨some a, some t⟩, { r with tokens := rest })
  | .anchor _ :: .failure f :: _
  | .tag _ :: .failure f :: _ => .error f
  | .anchor a :: rest => .ok (⟨some a, none⟩, { r with tokens := rest })
  | .tag t :: rest =>
    (fullTag handles t).map fun t => (⟨none, some t⟩, { r with tokens := rest })
  | _ => .ok (⟨none, none⟩, r)

/-- The reading with the anchor of a node open; anchors have to be new. -/
def opening (r : Reading) (p : Properties) : Except Failure Reading :=
  match p.anchor with
  | none => .ok r
  | some a =>
    if (r.anchors.lookup a).isSome || (r.opened.lookup a).isSome then .error .unreadable
    else .ok { r with opened := (a, r.tokens.length) :: r.opened }

/-- The reading after a node, whose anchor now names it. -/
def closing (r : Reading) (p : Properties) (n : Node) : Node × Reading :=
  match p.anchor with
  | none => (n, r)
  | some a =>
    (n, { r with anchors := (a, n) :: r.anchors, opened := r.opened.filter (·.1 != a) })

/-- The node that an alias names: one that has ended, or one around the alias. -/
def named (r : Reading) (a : Text) : Except Failure Node :=
  match r.anchors.lookup a with
  | some n => .ok n.repeated
  | none => Payload.orUnreadable ((r.opened.lookup a).map .back)

/-- The tag of a collection. -/
def collectionTag (p : Properties) : Tag :=
  match p.tag with
  | none => .collection
  | some t => if t == ['!'] then .collection else .given t

/-- The tag of a text. -/
def textTag (p : Properties) (plain : Bool) : Tag :=
  match p.tag with
  | none => if plain then .plain else .text
  | some t => if t == ['!'] then .plain else .given t

end Properties

section Nodes

mutual

/-- A node.  `block` allows collections in blocks, and `indentless` sequences whose signs stand
in the column of the mapping around them. -/
def node (handles : Handles) : Nat → (block indentless : Bool) → Reading →
    Except Failure (Node × Reading)
  | 0, _, _, _ => .error .unreadable
  | n + 1, block, indentless, r =>
    match r.tokens with
    | .alias a :: _ => (r.named a).map fun n => (n, r.next)
    | _ => do
      let (p, r) ← properties handles r
      let (content, r) ← contentOf handles n block indentless p (← r.opening p)
      return r.closing p content

/-- A node after its properties. -/
def contentOf (handles : Handles) : Nat → (block indentless : Bool) → Properties → Reading →
    Except Failure (Node × Reading)
  | 0, _, _, _, _ => .error .unreadable
  | n + 1, block, indentless, p, r =>
    let place := r.tokens.length
    let type := collectionTag p
    let missing : Except Failure (Node × Reading) :=
      if p.anchor.isNone && p.tag.isNone then .error r.failure
      else .ok (.scalar (textTag p true) [], r)
    match r.tokens with
    | .blockEntry :: _ =>
      if indentless then
        (entries handles n true r).map fun (items, r) => (.sequence place type items, r)
      else missing
    | .scalar t plain :: _ => .ok (.scalar (textTag p plain) t, r.next)
    | .flowSequenceStart :: _ =>
      (flowItems handles n true r.next).map fun (items, r) => (.sequence place type items, r)
    | .flowMappingStart :: _ =>
      (flowPairs handles n true r.next).map fun (es, r) => (.mapping place type es, r)
    | .blockSequenceStart :: _ =>
      if block then
        (entries handles n false r.next).map fun (items, r) => (.sequence place type items, r)
      else missing
    | .blockMappingStart :: _ =>
      if block then (pairs handles n r.next).map fun (es, r) => (.mapping place type es, r)
      else missing
    | _ => missing

/-- A node, or nothing before one of the given tokens. -/
def optional (handles : Handles) : Nat → (block indentless : Bool) → (stops : List Token) →
    Reading → Except Failure (Node × Reading)
  | 0, _, _, _, _ => .error .unreadable
  | n + 1, block, indentless, stops, r =>
    if r.atAny stops then .ok (.empty, r) else node handles n block indentless r

/-- The entries of a sequence in a block; an indentless one has no token at its end. -/
def entries (handles : Handles) : Nat → (indentless : Bool) → Reading →
    Except Failure (List Node × Reading)
  | 0, _, _ => .error .unreadable
  | n + 1, indentless, r =>
    match r.tokens with
    | .blockEntry :: _ => do
      let stops : List Token :=
        if indentless then [.blockEntry, .key, .value, .blockEnd] else [.blockEntry, .blockEnd]
      let (item, r) ← optional handles n true false stops r.next
      let (items, r) ← entries handles n indentless r
      return (item :: items, r)
    | .blockEnd :: _ => .ok ([], if indentless then r else r.next)
    | _ => if indentless then .ok ([], r) else .error r.failure

/-- The entries of a mapping in a block. -/
def pairs (handles : Handles) : Nat → Reading → Except Failure (List (Node × Node) × Reading)
  | 0, _ => .error .unreadable
  | n + 1, r =>
    match r.tokens with
    | .key :: _ => do
      let (k, r) ← optional handles n true true [.key, .value, .blockEnd] r.next
      let (v, r) ← blockValue handles n r
      let (es, r) ← pairs handles n r
      return ((k, v) :: es, r)
    | .blockEnd :: _ => .ok ([], r.next)
    | _ => .error r.failure

/-- The value after a key in a block. -/
def blockValue (handles : Handles) : Nat → Reading → Except Failure (Node × Reading)
  | 0, _ => .error .unreadable
  | n + 1, r =>
    match r.tokens with
    | .value :: _ => optional handles n true true [.key, .value, .blockEnd] r.next
    | _ => .ok (.empty, r)

/-- The items of a sequence in brackets; a key among them makes a mapping of one entry. -/
def flowItems (handles : Handles) : Nat → (first : Bool) → Reading →
    Except Failure (List Node × Reading)
  | 0, _, _ => .error .unreadable
  | n + 1, first, r =>
    match r.tokens with
    | .flowSequenceEnd :: _ => .ok ([], r.next)
    | t :: _ =>
      if !first && t != .flowEntry then .error r.failure
      else
        let r := if first then r else r.next
        match r.tokens with
        | .flowSequenceEnd :: _ => .ok ([], r.next)
        | .key :: _ => do
          let place := r.tokens.length
          let (k, r) ←
            optional handles n false false [.value, .flowEntry, .flowSequenceEnd] r.next
          let (v, r) ← flowValue handles n [.flowEntry, .flowSequenceEnd] r
          let (items, r) ← flowItems handles n false r
          return (.mapping place .collection [(k, v)] :: items, r)
        | _ => do
          let (item, r) ← node handles n false false r
          let (items, r) ← flowItems handles n false r
          return (item :: items, r)
    | [] => .error .unreadable

/-- The entries of a mapping in brackets. -/
def flowPairs (handles : Handles) : Nat → (first : Bool) → Reading →
    Except Failure (List (Node × Node) × Reading)
  | 0, _, _ => .error .unreadable
  | n + 1, first, r =>
    match r.tokens with
    | .flowMappingEnd :: _ => .ok ([], r.next)
    | t :: _ =>
      if !first && t != .flowEntry then .error r.failure
      else
        let r := if first then r else r.next
        match r.tokens with
        | .flowMappingEnd :: _ => .ok ([], r.next)
        | .key :: _ => do
          let (k, r) ← optional handles n false false [.value, .flowEntry, .flowMappingEnd] r.next
          let (v, r) ← flowValue handles n [.flowEntry, .flowMappingEnd] r
          let (es, r) ← flowPairs handles n false r
          return ((k, v) :: es, r)
        | _ => do
          let (k, r) ← node handles n false false r
          let (es, r) ← flowPairs handles n false r
          return ((k, .empty) :: es, r)
    | [] => .error .unreadable

/-- The value after a key in brackets. -/
def flowValue (handles : Handles) : Nat → (stops : List Token) → Reading →
    Except Failure (Node × Reading)
  | 0, _, _ => .error .unreadable
  | n + 1, stops, r =>
    match r.tokens with
    | .value :: _ => optional handles n false false stops r.next
    | _ => .ok (.empty, r)

end

end Nodes

section Documents

/-- The abbreviations that directives declare, and the tokens after them.  There is at most one
version, which has to be 1, and each handle is declared at most once. -/
def directives (version : Bool) (declared : Handles) : List Token →
    Except Failure (Handles × List Token)
  | .versionDirective major :: ts =>
    if version || major != 1 then .error .unreadable else directives true declared ts
  | .tagDirective h a :: ts =>
    if (declared.lookup h).isSome then .error .unreadable
    else directives version ((h, a) :: declared) ts
  | .otherDirective :: ts => directives version declared ts
  | ts => .ok (declared ++ standardHandles, ts)

/-- Whether a token begins a document with its own line. -/
def isExplicitStart : Token → Bool
  | .versionDirective _ | .tagDirective .. | .otherDirective | .documentStart => true
  | _ => false

/-- The single document of a list of tokens. -/
def document (tokens : List Token) : Except Failure Document := do
  let size := 8 * tokens.length + 8
  let start (ts : List Token) : Reading := ⟨ts, [], []⟩
  let (root, r) ←
    match tokens with
    | [] => .ok (.empty, start [])
    | t :: _ =>
      if isExplicitStart t then do
        let (handles, ts) ← directives false [] tokens
        match ts with
        | .documentStart :: ts =>
          if ts.head?.elim true fun t => isExplicitStart t || t == .documentEnd then
            .ok (Node.empty, start ts)
          else node handles size true false (start ts)
        | _ => .error (start ts).failure
      else node standardHandles size true false (start tokens)
  let rest := r.tokens.dropWhile (· == .documentEnd)
  if rest.isEmpty then return ⟨root, r.anchors⟩ else throw (start rest).failure

end Documents

end Reading


/-- The single document of a text. -/
def document (t : Text) : Except Failure Document :=
  Reading.document (tokens t)

end Yaml

end ApiAtlas
