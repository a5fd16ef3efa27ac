import TwinRender.Proofs.Document.Top
import TwinRender.Proofs.Markup.Parsing

/-!
# Documents that are written and read

A document is written as the markup of its root, and a parser makes a document of this markup. Where
the elements stay in place, the texts can be told from each other, and nothing is written that a
parser drops, the second document has the tree of the first one. It is another document all the
same: its nodes are numbered in the order of the document, and nodes that were detached are gone.

## Main definitions

* `Snapshot.unnumbered`: a tree without the numbers of its nodes.
* `Document.IsOrdinary`: a document that is the same when it is written and read.
* `Document.Shows`: some trees are those of nodes that can be read back.

## Main results

* `Snapshot.write_unnumbered`: the markup of a tree does not show the numbers.
* `Document.HoldsAll.exists_shows`: the trees of an ordinary document can be read back.
* `Document.parse_markup`: **writing and parsing give the tree back**.
* `Document.parseStrict_markup`: nothing is overlooked on the way.
-/

namespace TwinRender

open Markup (IsClean IsFlow)
open VNode (AllElementsIn AllTextsIn IsReadable Separated StaysInPlace parsedList)

/-! ### Trees without numbers -/

namespace Snapshot

mutual

/-- A tree without the numbers of its nodes. -/
def unnumbered : Snapshot → Snapshot
  | node _ payload children => node 0 payload (unnumberedList children)

/-- Trees without the numbers of their nodes. -/
def unnumberedList : List Snapshot → List Snapshot
  | [] => []
  | t :: ts => t.unnumbered :: unnumberedList ts

end

/-- Trees lose their numbers tree by tree. -/
theorem unnumberedList_eq_map (ts : List Snapshot) : unnumberedList ts = ts.map unnumbered := by
  induction ts with
  | nil => rfl
  | cons t ts ih => rw [unnumberedList, ih, List.map_cons]

/-- A tree without numbers has the payload of the tree. -/
@[simp] theorem payload_unnumbered (t : Snapshot) : t.unnumbered.payload = t.payload := by
  cases t
  rfl

mutual

/-- **The markup of a tree does not show the numbers of its nodes.** -/
theorem write_unnumbered (raw : Bool) (t : Snapshot) : t.unnumbered.write raw = t.write raw := by
  obtain ⟨id, payload, children⟩ := t
  have hfirst : ((unnumberedList children).head?.bind fun c => c.payload.data?) =
      children.head?.bind fun c => c.payload.data? := by
    cases children with
    | nil => rfl
    | cons c cs => simp [unnumberedList]
  cases payload with
  | element tag attributes => rw [unnumbered, write, write, hfirst, writeList_unnumberedList]
  | document => rw [unnumbered, write, write, writeList_unnumberedList]
  | text s | comment s => rfl

/-- The markup of trees does not show the numbers of their nodes. -/
theorem writeList_unnumberedList (raw : Bool) (ts : List Snapshot) :
    writeList raw (unnumberedList ts) = writeList raw ts := by
  cases ts with
  | nil => rfl
  | cons t ts =>
      rw [unnumberedList, writeList, writeList, write_unnumbered raw t,
        writeList_unnumberedList raw ts]

end

end Snapshot

open Snapshot (unnumberedList listIds)

namespace VNode

mutual

/-- The tree of a node whose names are in lower case. -/
def toSnapshot : VNode → Snapshot
  | .element tag attributes children => .node 0 (.element tag attributes) (toSnapshots children)
  | .text s => .node 0 (.text s) []

/-- The trees of nodes whose names are in lower case. -/
def toSnapshots : List VNode → List Snapshot
  | [] => []
  | n :: ns => n.toSnapshot :: toSnapshots ns

end

/-- The trees of nodes, node by node. -/
theorem toSnapshots_eq_map (ns : List VNode) : toSnapshots ns = ns.map toSnapshot := by
  induction ns with
  | nil => rfl
  | cons n ns ih => rw [toSnapshots, ih, List.map_cons]

/-- The data of the tree of a node is its text. -/
theorem data?_toSnapshot (n : VNode) : n.toSnapshot.payload.data? = n.text? := by
  cases n <;> rfl

/-- A tree is a text if the node is one. -/
theorem isText_toSnapshot (n : VNode) : n.toSnapshot.payload.isText = n.text?.isSome := by
  cases n <;> rfl

mutual

/-- A mounted node has the tree of the node. -/
theorem unnumbered_mounted (next : NodeId) (n : VNode) (h : n.IsLowercase) :
    (n.mounted next).unnumbered = n.toSnapshot := by
  cases n with
  | text s => rfl
  | element tag attributes children =>
      obtain ⟨⟨htag, hattributes⟩, hbelow⟩ := h
      rw [mounted, Snapshot.unnumbered, toSnapshot, htag,
        OrderedMap.lowerKeys_eq_self hattributes, unnumberedList_mountedList _ children hbelow]

/-- Mounted nodes have the trees of the nodes. -/
theorem unnumberedList_mountedList (next : NodeId) (ns : List VNode) (h : AreLowercase ns) :
    unnumberedList (mountedList next ns) = toSnapshots ns := by
  cases ns with
  | nil => rfl
  | cons n ns =>
      rw [mountedList, unnumberedList, toSnapshots, unnumbered_mounted next n h.1,
        unnumberedList_mountedList _ ns h.2]

end

mutual

/-- The tree of a node has the markup of the node. -/
theorem write_toSnapshot (raw : Bool) (n : VNode) (h : n.IsLowercase) :
    n.toSnapshot.write raw = n.write raw := by
  cases n with
  | text s => rfl
  | element tag attributes children =>
      obtain ⟨⟨htag, hattributes⟩, hbelow⟩ := h
      have hfirst : ((toSnapshots children).head?.bind fun c => c.payload.data?) =
          children.head?.bind text? := by
        cases children with
        | nil => rfl
        | cons c cs => simp [toSnapshots, data?_toSnapshot]
      rw [toSnapshot, Snapshot.write, write, htag, OrderedMap.lowerKeys_eq_self hattributes, hfirst,
        writeList_toSnapshots _ children hbelow]

/-- The trees of nodes have the markup of the nodes. -/
theorem writeList_toSnapshots (raw : Bool) (ns : List VNode) (h : AreLowercase ns) :
    Snapshot.writeList raw (toSnapshots ns) = writeList raw ns := by
  cases ns with
  | nil => rfl
  | cons n ns =>
      rw [toSnapshots, Snapshot.writeList, writeList, write_toSnapshot raw n h.1,
        writeList_toSnapshots raw ns h.2]

end

end VNode

namespace Document

variable {d : Document}

/-! ### Ordinary documents -/

/-- The tags of blocks, of parts of a text, and of preformatted text, which may have any content. -/
def contentTags : List String :=
  ["div", "section", "article", "header", "footer", "main", "nav", "aside", "span", "pre"]

/-- The tags of elements without content. -/
def voidTags : List String := ["br", "img", "input", "wbr"]

/-- The elements of ordinary documents. -/
inductive IsOrdinaryElement (tag : String) (children : List NodeId) : Prop where
  /-- An element that may have content. -/
  | content (h : tag ∈ contentTags)
  /-- An element that is defined elsewhere. -/
  | custom (hname : Html.isTagName tag = true) (h : '-' ∈ tag.toList)
  /-- An element without content. -/
  | void (h : tag ∈ voidTags) (hchildren : children = [])

/-- The nodes of ordinary documents: such elements, whose attributes may be written, and texts that
are not empty. Neither values nor texts hold what a parser drops or replaces. -/
def IsOrdinaryCell : Cell → Prop
  | ⟨.element tag attributes, _, children⟩ =>
    IsOrdinaryElement tag children ∧
      ∀ a ∈ attributes.toList, Html.isAttributeName a.1 = true ∧ IsClean a.2
  | ⟨.text s, _, _⟩ => s ≠ "" ∧ IsClean s
  | ⟨.comment _, _, _⟩ | ⟨.document, _, _⟩ => False

/-- One of two nodes is no text. -/
def Apart (d : Document) (a b : NodeId) : Prop :=
  ¬ ((d.payload? a).any Payload.isText = true ∧ (d.payload? b).any Payload.isText = true)

/-- A document that is the same when it is written and read. -/
structure IsOrdinary (d : Document) : Prop where
  /-- The nodes below the root are ordinary. -/
  nodes : ∀ id c, d.cell? id = some c → d.isAttached id = true → id ≠ root → IsOrdinaryCell c
  /-- No two neighbours are texts. -/
  apart : ∀ id c, d.cell? id = some c → d.isAttached id = true → c.children.IsChain d.Apart

instance (tag : String) (children : List NodeId) : Decidable (IsOrdinaryElement tag children) :=
  decidable_of_iff (tag ∈ contentTags ∨ (Html.isTagName tag = true ∧ '-' ∈ tag.toList) ∨
      (tag ∈ voidTags ∧ children = []))
    ⟨fun h => h.elim .content fun h => h.elim (fun h => .custom h.1 h.2) fun h => .void h.1 h.2,
      fun h => match h with
        | .content h => .inl h
        | .custom hname h => .inr (.inl ⟨hname, h⟩)
        | .void h hchildren => .inr (.inr ⟨h, hchildren⟩)⟩

instance : DecidablePred IsOrdinaryCell
  | ⟨.element _ _, _, _⟩ => inferInstanceAs (Decidable (_ ∧ _))
  | ⟨.text _, _, _⟩ => inferInstanceAs (Decidable (_ ∧ _))
  | ⟨.comment _, _, _⟩ | ⟨.document, _, _⟩ => inferInstanceAs (Decidable False)

instance (d : Document) : DecidableRel d.Apart := fun _ _ => inferInstanceAs (Decidable (¬ _))

instance (d : Document) : Decidable d.IsOrdinary :=
  decidable_of_iff (∀ id < d.cells.size, ∀ c ∈ d.cell? id, d.isAttached id = true →
      (id ≠ root → IsOrdinaryCell c) ∧ c.children.IsChain d.Apart)
    ⟨fun h => ⟨fun id c hc hid => (h id (lt_size_of_cell? hc) c hc hid).1,
      fun id c hc hid => (h id (lt_size_of_cell? hc) c hc hid).2⟩,
      fun h id _ c hc hid => ⟨h.nodes id c hc hid, h.apart id c hc hid⟩⟩

/-- Ordinary elements stay in place. -/
theorem IsOrdinaryElement.flow {tag : String} {children : List NodeId}
    (h : IsOrdinaryElement tag children) : IsFlow tag := by
  cases h with
  | content h =>
      have hall : ∀ tag ∈ contentTags, tag = "span" ∨ tag = "pre" ∨ tag ∈ ["div", "section",
          "article", "header", "footer", "main", "nav", "aside"] := by decide
      rcases hall tag h with h | h | h
      · exact .phrasing (.span h)
      · exact .preformatted h
      · exact .block h
  | custom _ h => exact .phrasing (.custom h)
  | void h _ => exact .phrasing (.void h)

/-- The tags of ordinary elements may be written. -/
theorem IsOrdinaryElement.isTagName {tag : String} {children : List NodeId}
    (h : IsOrdinaryElement tag children) : Html.isTagName tag = true := by
  cases h with
  | content h =>
      have hall : ∀ tag ∈ contentTags, Html.isTagName tag = true := by decide +kernel
      exact hall tag h
  | custom h _ => exact h
  | void h _ =>
      have hall : ∀ tag ∈ voidTags, Html.isTagName tag = true := by decide +kernel
      exact hall tag h

/-- An ordinary element has no children if its tag is that of an element without content. -/
theorem IsOrdinaryElement.childless {tag : String} {children : List NodeId}
    (h : IsOrdinaryElement tag children) (hlower : tag.toLower = tag)
    (hvoid : Html.isVoid tag = true) : children = [] := by
  cases h with
  | content h =>
      have hall : ∀ tag ∈ contentTags, Html.isVoid tag = false := by decide +kernel
      rw [hall tag h] at hvoid
      cases hvoid
  | custom _ h =>
      have hnot : Html.isVoid tag = false :=
        Markup.any_sameIgnoringCase_of_custom (by decide +kernel) hlower h
      rw [hnot] at hvoid
      cases hvoid
  | void _ h => exact h

/-! ### Trees that can be read back -/

/-- Some trees are those of nodes that can be read back, if the nodes can be told from each
other. -/
structure Shows (ts : List Snapshot) (ns : List VNode) : Prop where
  /-- They are the trees of the nodes. -/
  trees : unnumberedList ts = VNode.toSnapshots ns
  /-- The elements can be read back. -/
  readable : AllElementsIn IsReadable ns
  /-- They stay in place. -/
  inPlace : AllElementsIn StaysInPlace ns
  /-- Nothing is dropped from texts and values. -/
  clean : AllTextsIn IsClean ns
  /-- No text is empty. -/
  nonempty : ∀ s, .text s ∈ ns → s ≠ ""

namespace Shows

variable {t : Snapshot} {ts : List Snapshot} {n : VNode} {ns : List VNode}

/-- No trees are those of no nodes. -/
theorem nil : Shows [] [] := ⟨rfl, trivial, trivial, trivial, fun _ => nofun⟩

/-- A tree before some trees is that of a node before some nodes. -/
theorem cons (ht : Shows [t] [n]) (hts : Shows ts ns) : Shows (t :: ts) (n :: ns) where
  trees := by
    have hfirst := (List.cons.inj ht.trees).1
    rw [unnumberedList, VNode.toSnapshots, hfirst, hts.trees]
  readable := ⟨ht.readable.1, hts.readable⟩
  inPlace := ⟨ht.inPlace.1, hts.inPlace⟩
  clean := ⟨ht.clean.1, hts.clean⟩
  nonempty s hs := by
    rcases List.mem_cons.mp hs with rfl | hs
    · exact ht.nonempty s (List.mem_singleton_self _)
    · exact hts.nonempty s hs

/-- A text is that of a node. -/
theorem text {id : NodeId} {s : String} (hnonempty : s ≠ "") (hclean : IsClean s) :
    Shows [.node id (.text s) []] [.text s] where
  trees := rfl
  readable := ⟨trivial, trivial⟩
  inPlace := ⟨trivial, trivial⟩
  clean := ⟨hclean, trivial⟩
  nonempty := by simpa using hnonempty

/-- An element is that of a node if its children are those of nodes. -/
theorem element {id : NodeId} {tag : String} {attributes : OrderedMap String} (h : Shows ts ns)
    (hreadable : IsReadable tag attributes ns) (hstay : StaysInPlace tag attributes ns)
    (hclean : ∀ a ∈ attributes.toList, IsClean a.2) :
    Shows [.node id (.element tag attributes) ts] [.element tag attributes ns] where
  trees := by
    rw [unnumberedList, Snapshot.unnumbered, h.trees]
    rfl
  readable := ⟨⟨hreadable, h.readable⟩, trivial⟩
  inPlace := ⟨⟨hstay, h.inPlace⟩, trivial⟩
  clean := ⟨⟨hclean, h.clean⟩, trivial⟩
  nonempty := by simp

/-- Nodes that can be read back have names in lower case. -/
theorem areLowercase (h : Shows ts ns) : VNode.AreLowercase ns :=
  AllElementsIn.imp (fun _ _ _ h => h.lowercase) ns h.readable

/-- No trees are those of no nodes, and of no others. -/
theorem eq_nil (h : Shows [] ns) : ns = [] := by
  cases ns with
  | nil => rfl
  | cons n ns => cases h.trees

/-- The nodes can be told from each other if the document can tell those of the trees. -/
theorem separated (h : Shows ts ns) {parent : Option NodeId} (hheld : d.HoldsAll parent ts)
    (hapart : (ts.map Snapshot.id).IsChain d.Apart) : Separated ns := by
  refine ⟨?_, h.nonempty⟩
  -- which of the nodes are texts is seen from the payloads of the trees
  have hpayloads : ts.map (fun t => (d.payload? t.id).any Payload.isText) =
      ns.map fun n => n.text?.isSome := by
    calc ts.map (fun t => (d.payload? t.id).any Payload.isText)
        = ts.map (fun t => t.unnumbered.payload.isText) :=
          List.map_congr_left fun t ht => by
            rw [payload?_of_cell? (holdsAll_iff.mp hheld t ht).cell, Option.any_some,
              Snapshot.payload_unnumbered]
      _ = (unnumberedList ts).map (fun t => t.payload.isText) := by
          rw [Snapshot.unnumberedList_eq_map, List.map_map]
          rfl
      _ = ns.map fun n => n.text?.isSome := by
          rw [h.trees, VNode.toSnapshots_eq_map, List.map_map]
          exact List.map_congr_left fun n _ => VNode.isText_toSnapshot n
  have hflags : (ts.map fun t => (d.payload? t.id).any Payload.isText).IsChain
      fun a b => ¬ (a = true ∧ b = true) := by
    rw [List.isChain_map] at hapart ⊢
    exact hapart
  rw [hpayloads, List.isChain_map] at hflags
  refine hflags.imp fun m n h => ?_
  rw [not_and_or] at h
  simpa [VNode.Apart] using h

end Shows

mutual

/-- The tree below a node of an ordinary document is that of a node that can be read back. -/
theorem Holds.exists_shows (hd : d.Sound) (hordinary : d.IsOrdinary) {parent : Option NodeId}
    (t : Snapshot) (h : d.Holds parent t)
    (hbelow : ∀ i ∈ t.ids, d.isAttached i = true ∧ i ≠ root) : ∃ n, Shows [t] [n] := by
  obtain ⟨id, payload, children⟩ := t
  simp only [Snapshot.ids_node, List.mem_cons, forall_eq_or_imp] at hbelow
  obtain ⟨⟨hattached, hne⟩, hrest⟩ := hbelow
  have hcell := hordinary.nodes id _ h.1 hattached hne
  have hpayload := payload?_of_cell? h.1
  cases payload with
  | element tag attributes =>
      obtain ⟨helement, hattributes⟩ := hcell
      obtain ⟨ns, hns⟩ := HoldsAll.exists_shows hd hordinary children h.2 hrest
      have hlower := hd.lowercase id tag attributes hpayload
      have hseparated : Separated ns :=
        hns.separated h.2 (hordinary.apart id _ h.1 hattached)
      have hchildless (hvoid : Html.isVoid tag = true) : ns = [] := by
        obtain rfl := List.map_eq_nil_iff.mp (helement.childless hlower.tag hvoid)
        exact hns.eq_nil
      have hnames (name : String) (hname : name ∈ attributes.keys) :
          Html.isAttributeName name = true := by
        obtain ⟨a, ha, rfl⟩ := List.mem_map.mp hname
        exact (hattributes a ha).1
      have hwritable : VNode.IsWritable tag attributes ns :=
        ⟨hlower, hchildless, ⟨helement.isTagName, hnames⟩, helement.flow.escaped hlower.tag⟩
      exact ⟨.element tag attributes ns, hns.element ⟨hwritable, hseparated⟩ (.flow helement.flow)
        fun a ha => (hattributes a ha).2⟩
  | text s =>
      have hleaf : d.children id = [] := hd.children_eq_nil_of_data? (by rw [data?, hpayload]; rfl)
      rw [children_of_cell? h.1, List.map_eq_nil_iff] at hleaf
      subst hleaf
      exact ⟨.text s, .text hcell.1 hcell.2⟩
  | comment _ | document => exact hcell.elim

/-- The trees below the nodes of an ordinary document are those of nodes that can be read back. -/
theorem HoldsAll.exists_shows (hd : d.Sound) (hordinary : d.IsOrdinary) {parent : Option NodeId}
    (ts : List Snapshot) (h : d.HoldsAll parent ts)
    (hbelow : ∀ i ∈ listIds ts, d.isAttached i = true ∧ i ≠ root) : ∃ ns, Shows ts ns := by
  cases ts with
  | nil => exact ⟨[], .nil⟩
  | cons t ts =>
      simp only [Snapshot.listIds_cons, List.mem_append, or_imp, forall_and] at hbelow
      obtain ⟨n, hn⟩ := Holds.exists_shows hd hordinary t h.1
        fun i hi => ⟨hbelow.1.1 i hi, hbelow.2.1 i hi⟩
      obtain ⟨ns, hns⟩ := HoldsAll.exists_shows hd hordinary ts h.2
        fun i hi => ⟨hbelow.1.2 i hi, hbelow.2.2 i hi⟩
      exact ⟨n :: ns, hn.cons hns⟩

end

/-! ### Writing and parsing -/

/-- **The tree of an ordinary document can be read back**: it is the tree of nodes of which the
parser makes, from the markup of the document, the same nodes again. -/
theorem exists_parse_markup (hd : d.Reachable) (h : d.IsOrdinary) :
    ∃ ns, (d.tree root).unnumbered = .node 0 .document (VNode.toSnapshots ns) ∧
      VNode.AreLowercase ns ∧ Markup.parse (d.markup root) = parsedList ns ∧
      Markup.recoveries (d.markup root) = [] := by
  have hroot := hd.payload?_root
  have hsound := hd.sound
  obtain ⟨hid, hheld⟩ := hsound.holds_tree (lt_size_of_payload? hroot)
  rw [markup]
  generalize d.tree root = t at hid hheld
  obtain ⟨id, payload, ts⟩ := t
  obtain rfl : id = root := hid
  obtain rfl : payload = .document :=
    Option.some.inj ((payload?_of_cell? hheld.1).symm.trans hroot)
  obtain ⟨ns, hns⟩ := HoldsAll.exists_shows hsound h ts hheld.2 fun i hi =>
    ⟨(hsound.isAttached_iff i).mpr (HoldsAll.above ts hheld.2 hi),
      fun heq => hsound.not_mem_listIds hheld.2 (heq ▸ hi)⟩
  have hseparated : Separated ns := hns.separated hheld.2
    (h.apart root _ hheld.1 ((hsound.isAttached_iff root).mpr (Above.refl d root)))
  have hmarkup : (Snapshot.node root .document ts).write false = VNode.writeList false ns := by
    rw [Snapshot.write, ← Snapshot.writeList_unnumberedList, hns.trees,
      VNode.writeList_toSnapshots false ns hns.areLowercase]
  obtain ⟨hparse, hrecoveries⟩ :=
    VNode.parse_writeList hns.readable hseparated hns.clean hns.inPlace
  refine ⟨ns, ?_, hns.areLowercase, ?_, ?_⟩
  · rw [Snapshot.unnumbered, hns.trees]
  · rw [hmarkup, hparse]
  · rw [hmarkup, hrecoveries]

/-- The tree of the document of parsed nodes. -/
theorem tree_ofForest (nodes : List Markup.Node) :
    (ofForest nodes).tree root = .node root .document (Markup.Node.numberedList 1 nodes) :=
  (Sound.ofForest nodes).tree_eq (holds_ofForest nodes)

/-- The document of parsed nodes has the trees of the nodes. -/
theorem tree_parse {markup : String} {ns : List VNode} (h : Markup.parse markup = parsedList ns)
    (hns : VNode.AreLowercase ns) :
    ((Document.parse markup).tree root).unnumbered = .node 0 .document (VNode.toSnapshots ns) := by
  rw [Document.parse, h, tree_ofForest, (VNode.numberedList_parsedList 1 ns).1,
    Snapshot.unnumbered, VNode.unnumberedList_mountedList 1 ns hns]

/-- **Writing and parsing give an ordinary document back**: the document of its markup has the same
tree — the same tags, attributes with their values, and texts, in the same order — and the same
markup. -/
theorem parse_markup (hd : d.Reachable) (h : d.IsOrdinary) :
    ((Document.parse (d.markup root)).tree root).unnumbered = (d.tree root).unnumbered ∧
      (Document.parse (d.markup root)).markup root = d.markup root := by
  obtain ⟨ns, htree, hlower, hparse, -⟩ := exists_parse_markup hd h
  have hsame : ((Document.parse (d.markup root)).tree root).unnumbered =
      (d.tree root).unnumbered := (tree_parse hparse hlower).trans htree.symm
  refine ⟨hsame, ?_⟩
  calc (Document.parse (d.markup root)).markup root
      = ((Document.parse (d.markup root)).tree root).unnumbered.write false :=
        (Snapshot.write_unnumbered false _).symm
    _ = (d.tree root).unnumbered.write false := by rw [hsame]
    _ = d.markup root := Snapshot.write_unnumbered false _

/-- What comes to a document with preformatted text that begins with a line feed, attributes that
have marks of markup or no value, and a comment that stands nowhere. -/
def noteOperations : List Operation :=
  [.createElement "pre", .createText "\n<&", .appendChild 1 2, .createElement "X-Note",
    .setAttribute 3 "Title" "\"a\" & b", .setAttribute 3 "hidden" "", .createText "c",
    .createElement "br", .appendChild 3 4, .appendChild 3 5, .appendChild root 3,
    .createComment "d", .insertBefore root 1 3]

/-- The document with the note is given back, without the comment. -/
theorem parse_markup_note :
    (empty.performAll noteOperations).1.Reachable ∧
      (empty.performAll noteOperations).1.IsOrdinary ∧
      ((Document.parse ((empty.performAll noteOperations).1.markup root)).tree root).unnumbered =
        ((empty.performAll noteOperations).1.tree root).unnumbered ∧
      (Document.parse ((empty.performAll noteOperations).1.markup root)).markup root =
        (empty.performAll noteOperations).1.markup root := by
  have hd : (empty.performAll noteOperations).1.Reachable :=
    Reachable.performAll .empty noteOperations
  have hordinary : (empty.performAll noteOperations).1.IsOrdinary := by decide +kernel
  exact ⟨hd, hordinary, parse_markup hd hordinary⟩

/-- Nothing is overlooked when the markup of an ordinary document is parsed. -/
theorem parseStrict_markup (hd : d.Reachable) (h : d.IsOrdinary) :
    Document.parseStrict (d.markup root) = .ok (.parse (d.markup root)) := by
  obtain ⟨ns, -, -, -, hrecoveries⟩ := exists_parse_markup hd h
  rw [parseStrict, hrecoveries]

end Document

end TwinRender
