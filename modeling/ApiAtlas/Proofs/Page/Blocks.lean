import ApiAtlas.Page
import ApiAtlas.Proofs.Markup.Adjacency
import ApiAtlas.Proofs.Markup.Blocks

/-!
# The text of a page, block by block

**Input.** An entity, the least access level that is shown, and the language that code blocks name.

**Definitions.** `blocks` are the texts that a page is made of: what it says of the entity itself,
then the members that are shown, then the extensions that are shown with their own members.  A member
is a `memberBlock`: a list item with everything below it one level in.

**Results.** `markdown_eq_joined`: a page is its blocks side by side.
-/

namespace ApiAtlas

namespace Page

open Markup

section Defs

/-- A heading on a line of its own. -/
def titleLine (level : Nat) (t : Text) : Text :=
  List.replicate level '#' ++ ' ' :: t ++ ['\n']

/-- A text between fences. -/
def fenced (language t : Text) : Text :=
  "```".toList ++ language ++ '\n' :: t ++ "\n```".toList

/-- The comment of an entity, if there is one and it is not empty. -/
def comment? (e : Entity) : Option Text :=
  e.profile.comment.filter (· ≠ [])

/-- What a page says about an entity in words. -/
def commentText (e : Entity) : Text :=
  (comment? e).getD "No documentation".toList

/-- The kind of an entity between stars. -/
def kindText (e : Entity) : Text :=
  '*' :: e.kind.label ++ ['*']

/-- A member as a list item: its title in front, and below it, each line after a tab, its kind, its
declaration between fences and its comment. -/
def memberBlock (language : Text) (e : Entity) : Text :=
  "* **".toList ++ e.title ++ "**\n".toList ++ tabbed (kindText e) ++
    tabbed (fenced language e.profile.declaration) ++ tabbed (commentText e)

/-- The members that are shown, one block for each. -/
def memberBlocks (language : Text) (minimum : Access) (e : Entity) : List Text :=
  (e.children.filter fun c => minimum ≤ c.access).map (memberBlock language)

/-- An extension: its title with the file that declares it, its declaration, its comment if there is
one, and its members. -/
def extensionBlocks (language : Text) (minimum : Access) (x : Entity) : List Text :=
  let file := x.profile.sourceFile
  [titleLine 5 (x.title ++ if file = [] then [] else " (".toList ++ file ++ [')']),
    fenced language x.profile.declaration ++ ['\n']] ++
    ((comment? x).toList.map fun t => t ++ ['\n']) ++ memberBlocks language minimum x

/-- The blocks of a page. -/
def blocks (language : Text) (minimum : Access) (e : Entity) : List Text :=
  [titleLine 2 e.title, kindText e, fenced language e.profile.declaration ++ ['\n'],
    commentText e ++ ['\n']] ++
    (if ∃ c ∈ e.children, minimum ≤ c.access then
      ["___\n".toList, titleLine 4 "Members".toList] ++ memberBlocks language minimum e
    else []) ++
    (if ∃ x ∈ e.extensions, minimum ≤ x.access then
      ["___\n".toList, titleLine 4 "Extensions".toList] ++
        (e.extensions.filter fun x => minimum ≤ x.access).flatMap (extensionBlocks language minimum)
    else [])

end Defs

section Parts

variable (language : Text) (minimum : Access)

theorem firstGiven_singleton (t : Option Text) :
    Profile.firstGiven [t] = t.filter (· ≠ []) := by
  cases t with
  | none => rfl
  | some t =>
      cases t with
      | nil => rfl
      | cons c t => rfl

theorem documentation_eq (e : Entity) : e.profile.documentation = commentText e := by
  rw [Profile.documentation, firstGiven_singleton]
  rfl

theorem extensionTitle_eq (x : Entity) :
    extensionTitle x = x.title ++
      if x.profile.sourceFile = [] then [] else " (".toList ++ x.profile.sourceFile ++ [')'] := by
  rw [extensionTitle]
  split
  · next h => simp [h]
  · next h =>
      rw [if_neg h]
      simp

theorem memberBlock_eq (e : Entity) :
    memberBlock language e =
      "* ".toList ++ ("**".toList ++ e.title ++ "**".toList) ++
        '\n' :: [kindText e, fenced language e.profile.declaration, commentText e].flatMap tabbed := by
  have hblock : memberBlock language e = "* **".toList ++ e.title ++ "**\n".toList ++
      (tabbed (kindText e) ++
        (tabbed (fenced language e.profile.declaration) ++ tabbed (commentText e))) := by
    rw [← List.append_assoc, ← List.append_assoc]
    rfl
  rw [hblock]
  simp

/-- A member is written as its block. -/
theorem render_member (e : Entity) :
    render .reference 0 (member language e) = ⟨memberBlock language e, []⟩ := by
  have hstar : ∀ c, c = '*' → Text.isBlank c = false := by
    rintro c rfl
    decide
  have htitle : describe (bold e.title) = "**".toList ++ e.title ++ "**".toList :=
    describe_marked (by simp) (fun c hc => hstar c (by simpa using hc)) _
  have hkind : describe (italics e.kind.label) = kindText e :=
    describe_marked (by simp) (fun c hc => hstar c (by simpa using hc)) _
  have hbelow : [paragraph (kindText e) 0, declaration language e, paragraph (commentText e) 0] =
      [kindText e, fenced language e.profile.declaration, commentText e].map
        fun t => paragraph t 0 := rfl
  rw [member, htitle, hkind, documentation_eq, hbelow, render_bullet, memberBlock_eq]

/-- Parts that are written as these texts and refer to no target. -/
def WrittenAs (nodes : List Node) (texts : List Text) : Prop :=
  nodes.map (render .reference 0) = texts.map fun t => ⟨t, []⟩

variable {language minimum}

theorem WrittenAs.append {ns ms : List Node} {ts us : List Text} (h : WrittenAs ns ts)
    (h' : WrittenAs ms us) : WrittenAs (ns ++ ms) (ts ++ us) := by
  rw [WrittenAs, List.map_append, List.map_append, h, h']

theorem WrittenAs.flatMap {es : List Entity} {f : Entity → List Node} {g : Entity → List Text}
    (h : ∀ e ∈ es, WrittenAs (f e) (g e)) : WrittenAs (es.flatMap f) (es.flatMap g) := by
  induction es with
  | nil => rfl
  | cons e es ih =>
      rw [List.flatMap_cons, List.flatMap_cons]
      exact (h e (List.mem_cons_self ..)).append (ih fun x hx => h x (List.mem_cons_of_mem _ hx))

theorem WrittenAs.finalize {nodes : List Node} {texts : List Text} (h : WrittenAs nodes texts) :
    finalize (document nodes) = joined texts ++ ['\n'] := by
  have hlinks : ∀ n ∈ nodes, (render .reference 0 n).links = [] := by
    intro n hn
    have hmem : render .reference 0 n ∈ texts.map fun t => (⟨t, []⟩ : Rendered) := by
      rw [← h]
      exact List.mem_map_of_mem hn
    obtain ⟨t, -, ht⟩ := List.mem_map.1 hmem
    rw [← ht]
  have htexts : (nodes.map fun n => (render .reference 0 n).text) = texts := by
    have htext := congrArg (List.map Rendered.text) h
    rw [List.map_map, List.map_map] at htext
    exact htext.trans (List.map_id texts)
  rw [finalize_document hlinks, htexts, joinSiblings_eq, siblingText_eq_joined]

theorem writtenAs_paragraph (t : Text) : WrittenAs [paragraph t 0] [t ++ ['\n']] :=
  congrArg (fun r => [r]) (render_paragraph t)

theorem writtenAs_members (e : Entity) :
    WrittenAs (members language minimum e) (memberBlocks language minimum e) := by
  rw [WrittenAs, members, memberBlocks, List.map_map, List.map_map]
  exact List.map_congr_left fun m _ => render_member language m

theorem writtenAs_extension (x : Entity) :
    WrittenAs (extension language minimum x) (extensionBlocks language minimum x) := by
  have hfirst : WrittenAs [heading 5 (extensionTitle x), declaration language x]
      [titleLine 5 (extensionTitle x), fenced language x.profile.declaration ++ ['\n']] :=
    (writtenAs_paragraph _).append (writtenAs_paragraph _)
  have hcomment : WrittenAs ((comment? x).toList.map fun t => paragraph t 0)
      ((comment? x).toList.map fun t => t ++ ['\n']) := by
    cases comment? x with
    | none => rfl
    | some t => exact writtenAs_paragraph t
  rw [extension, firstGiven_singleton, extensionBlocks, ← extensionTitle_eq]
  exact (hfirst.append hcomment).append (writtenAs_members x)

/-- A section of a page is written under its heading, and left out when it has no entries. -/
theorem writtenAs_titled (title : String) {nodes : List Node} {texts : List Text}
    (h : WrittenAs nodes texts) {p : Prop} [Decidable p] (hp : p ↔ nodes ≠ []) :
    WrittenAs (titled title nodes)
      (if p then ["___\n".toList, titleLine 4 title.toList] ++ texts else []) := by
  rw [titled]
  by_cases hnodes : nodes = []
  · rw [if_pos (by simp [hnodes]), if_neg (by simpa [hp] using hnodes)]
    rfl
  · have hhead : WrittenAs [divider, heading 4 title.toList]
        ["___\n".toList, titleLine 4 title.toList] :=
      (writtenAs_paragraph _).append (writtenAs_paragraph _)
    rw [if_neg (by simpa using hnodes), if_pos (hp.2 hnodes)]
    exact hhead.append h

theorem members_ne_nil_iff (e : Entity) :
    (∃ c ∈ e.children, minimum ≤ c.access) ↔ members language minimum e ≠ [] := by
  simp [members, Entity.visibleChildren]

theorem extensions_ne_nil_iff (e : Entity) :
    (∃ x ∈ e.extensions, minimum ≤ x.access) ↔ extensions language minimum e ≠ [] := by
  simp [extensions, Entity.visibleExtensions, extension]

end Parts

/-- A page is its blocks side by side. -/
theorem markdown_eq_joined (language : Text) (minimum : Access) (e : Entity) :
    markdown language minimum e = joined (blocks language minimum e) ++ ['\n'] := by
  have hkind : WrittenAs [italics e.kind.label] [kindText e] :=
    congrArg (fun r => [r]) (render_marked .reference ['*'] e.kind.label)
  have hfirst : WrittenAs [heading 2 e.title, italics e.kind.label, declaration language e,
        paragraph (commentText e) 0]
      [titleLine 2 e.title, kindText e, fenced language e.profile.declaration ++ ['\n'],
        commentText e ++ ['\n']] :=
    (writtenAs_paragraph _).append (hkind.append
      ((writtenAs_paragraph _).append (writtenAs_paragraph _)))
  have hmembers : WrittenAs (titled "Members" (members language minimum e)) _ :=
    writtenAs_titled "Members" (writtenAs_members e) (members_ne_nil_iff e)
  have hextensions : WrittenAs (titled "Extensions" (extensions language minimum e)) _ :=
    writtenAs_titled "Extensions" (WrittenAs.flatMap fun x _ => writtenAs_extension x)
      (extensions_ne_nil_iff e)
  rw [markdown, parts, documentation_eq]
  exact ((hfirst.append hmembers).append hextensions).finalize

end Page

end ApiAtlas
