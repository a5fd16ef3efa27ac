import TwinRender.Proofs.Render.Writer

/-!
# Trees that can be read back

Markup tells neighbouring texts from each other only when an element stands between them, and
shows no text that is empty. The tree that a client program describes has its adjacent texts
merged, and the server holds empty texts by placeholders. So what is written has a text at most
between two elements, and none of them is empty; its names are those of a valid template.

## Main definitions

* `VNode.Separated`: no two neighbours are texts, and no text is empty.
* `VNode.HasValidNames`, `VNode.IsReadable`: elements whose markup can be read back.

## Main results

* `Template.gives_hasValidNames`: elements without faults have valid names.
* `VNode.isReadable_filledList`: **merged and filled trees can be read back**.
-/

namespace TwinRender

namespace VNode

/-! ### Separated texts -/

/-- One of two neighbours is no text. -/
def Apart (m n : VNode) : Prop := m.text? = none ∨ n.text? = none

/-- No two neighbours are texts, and no text is empty. -/
structure Separated (ns : List VNode) : Prop where
  /-- No two neighbours are texts. -/
  apart : ns.IsChain Apart
  /-- No text is empty. -/
  nonempty : ∀ s, .text s ∈ ns → s ≠ ""

/-- What stands behind a node is separated if the node and what stands behind it are. -/
theorem Separated.tail {n : VNode} {ns : List VNode} (h : Separated (n :: ns)) : Separated ns :=
  ⟨h.apart.of_cons, fun s hs => h.nonempty s (List.mem_cons_of_mem _ hs)⟩

/-- Behind a text stands an element, or nothing. -/
theorem Separated.behind_text {s : String} {n : VNode} {ns : List VNode}
    (h : Separated (.text s :: n :: ns)) : n.text? = none :=
  ((List.isChain_cons_cons.mp h.apart).1).resolve_left (by simp [text?])

/-- Texts that join their siblings leave no two neighbours texts. -/
theorem isChain_mergeInto (n : VNode) {ns : List VNode} (h : ns.IsChain Apart) :
    (mergeInto n ns).IsChain Apart := by
  rcases n with _ | s
  · cases ns with
    | nil => exact List.isChain_singleton _
    | cons m ms => exact List.isChain_cons_cons.mpr ⟨Or.inl rfl, h⟩
  · rcases ns with _ | ⟨_ | t, rest⟩
    · exact List.isChain_singleton _
    · exact List.isChain_cons_cons.mpr ⟨Or.inr rfl, h⟩
    · cases rest with
      | nil => exact List.isChain_singleton _
      | cons m ms =>
          -- a joined text has the same neighbour as the text that it joined
          obtain ⟨hfirst, hrest⟩ := List.isChain_cons_cons.mp h
          have hm : m.text? = none := hfirst.resolve_left (by simp [text?])
          exact List.isChain_cons_cons.mpr ⟨Or.inr hm, hrest⟩

/-- Among merged nodes no two neighbours are texts. -/
theorem isChain_mergedList (ns : List VNode) : (mergedList ns).IsChain Apart := by
  induction ns with
  | nil => exact List.isChain_nil
  | cons n ns ih => exact isChain_mergeInto n.merged ih

/-- Placeholders make no text of an element, and no element of a text. -/
theorem text?_filled_eq_none_iff {n : VNode} : n.filled.text? = none ↔ n.text? = none := by
  cases n <;> simp [filled, text?]

/-- With placeholders no text is empty. -/
theorem separated_filledList {ns : List VNode} (h : ns.IsChain Apart) :
    Separated (filledList ns) where
  apart := by
    rw [filledList_eq_map, List.isChain_map]
    exact h.imp fun m n => Or.imp text?_filled_eq_none_iff.mpr text?_filled_eq_none_iff.mpr
  nonempty s hs := by
    rw [filledList_eq_map, List.mem_map] at hs
    obtain ⟨n, -, hn⟩ := hs
    cases n with
    | element tag attributes children => cases hn
    | text t =>
        rw [filled, VNode.text.injEq] at hn
        rw [← hn]
        split
        · decide
        · next hempty =>
          rintro rfl
          exact hempty rfl

/-! ### Elements of merged and filled trees -/

variable {p q : String → OrderedMap String → List VNode → Prop}

mutual

/-- The elements of a merged tree are those of the tree, with merged children. -/
theorem AllElements.merged (hp : ∀ tag attributes children, p tag attributes children →
      q tag attributes (mergedList children)) (n : VNode) (h : n.AllElements p) :
    n.merged.AllElements q := by
  cases n with
  | text s => trivial
  | element tag attributes children =>
      exact ⟨hp tag attributes children h.1, AllElementsIn.mergedList hp children h.2⟩

/-- The elements of merged trees are those of the trees, with merged children. -/
theorem AllElementsIn.mergedList (hp : ∀ tag attributes children, p tag attributes children →
      q tag attributes (mergedList children)) (ns : List VNode) (h : AllElementsIn p ns) :
    AllElementsIn q (mergedList ns) := by
  cases ns with
  | nil => trivial
  | cons n ns =>
      exact allElementsIn_mergeInto.mpr
        ⟨AllElements.merged hp n h.1, AllElementsIn.mergedList hp ns h.2⟩

end

mutual

/-- The elements of a filled tree are those of the tree, with filled children. -/
theorem AllElements.filled (hp : ∀ tag attributes children, p tag attributes children →
      q tag attributes (filledList children)) (n : VNode) (h : n.AllElements p) :
    n.filled.AllElements q := by
  cases n with
  | text s => trivial
  | element tag attributes children =>
      exact ⟨hp tag attributes children h.1, AllElementsIn.filledList hp children h.2⟩

/-- The elements of filled trees are those of the trees, with filled children. -/
theorem AllElementsIn.filledList (hp : ∀ tag attributes children, p tag attributes children →
      q tag attributes (filledList children)) (ns : List VNode) (h : AllElementsIn p ns) :
    AllElementsIn q (filledList ns) := by
  cases ns with
  | nil => trivial
  | cons n ns => exact ⟨AllElements.filled hp n h.1, AllElementsIn.filledList hp ns h.2⟩

end

/-! ### Readable elements -/

/-- The names of an element and of its attributes may be written. -/
structure HasValidNames (tag : String) (attributes : OrderedMap String) : Prop where
  /-- The tag is one. -/
  tag : Html.isTagName tag = true
  /-- The names of the attributes are such. -/
  attributes : ∀ name ∈ attributes.keys, Html.isAttributeName name = true

/-- An element whose markup can be read back, but for what is directly in it. -/
structure IsWritable (tag : String) (attributes : OrderedMap String) (children : List VNode) :
    Prop where
  /-- Its names are in lower case. -/
  lowercase : HasLowercaseNames tag attributes
  /-- It has no children if it is void. -/
  void : Html.isVoid tag = true → children = []
  /-- Its names may be written. -/
  names : HasValidNames tag attributes
  /-- Its texts are escaped. -/
  escaped : Html.isRawText tag = false

/-- An element whose markup can be read back. -/
structure IsReadable (tag : String) (attributes : OrderedMap String) (children : List VNode) :
    Prop extends IsWritable tag attributes children where
  /-- Its children can be told from each other. -/
  separated : Separated children

/-- **Merged and filled trees can be read back**: their elements, and the trees themselves can be
told from each other. -/
theorem isReadable_filledList {ns : List VNode} (h : AllElementsIn IsWritable ns) :
    AllElementsIn IsReadable (filledList (mergedList ns)) ∧
      Separated (filledList (mergedList ns)) := by
  have hmerged := AllElementsIn.mergedList
    (q := fun tag attributes children =>
      IsWritable tag attributes children ∧ children.IsChain Apart)
    (fun tag attributes children h => ⟨⟨h.lowercase, fun hvoid =>
      mergedList_eq_nil_iff.mpr (h.void hvoid), h.names, h.escaped⟩,
      isChain_mergedList children⟩) ns h
  refine ⟨AllElementsIn.filledList (fun tag attributes children h => ?_) _ hmerged,
    separated_filledList (isChain_mergedList ns)⟩
  refine ⟨⟨h.1.lowercase, fun hvoid => ?_, h.1.names, h.1.escaped⟩, separated_filledList h.2⟩
  rw [h.1.void hvoid]
  rfl

end VNode

/-! ### Valid templates -/

namespace Template

open VNode (HasValidNames)

/-- Elements without faults have valid names. -/
theorem gives_hasValidNames :
    Gives Node.HasNoFaults fun tag attributes _ => HasValidNames tag attributes := by
  intro tag attributes children location h names nodes _
  have hrepeated := repeated_eq_nil_of_elementFaults h
  rw [Node.HasNoFaults, elementFaults] at h
  simp only [List.append_eq_nil_iff, List.map_eq_nil_iff, List.filter_eq_nil_iff] at h
  obtain ⟨⟨⟨htag, -⟩, hnames⟩, -⟩ := h
  refine ⟨?_, fun name hname => ?_⟩
  · rw [Html.isTagName_toLower]
    by_contra hnot
    rw [if_neg hnot] at htag
    cases htag
  · obtain ⟨entry, hmem, rfl⟩ := List.mem_map.mp hname
    rw [show (attributeValues names attributes).entries =
      attributes.filterMap (Attribute.evaluate names) from
        toList_attributeValues names hrepeated, List.mem_filterMap] at hmem
    obtain ⟨a, ha, hentry⟩ := hmem
    obtain ⟨value, -, rfl⟩ := Option.map_eq_some_iff.mp hentry
    simpa using hnames a ha

end Template

end TwinRender
