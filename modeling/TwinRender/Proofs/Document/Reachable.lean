import TwinRender.Document.Parsed
import TwinRender.Proofs.Document.Sound

/-!
# Documents that can be reached

A program gets a document from the parser, or starts with an empty one, and then only edits it. All
documents that can be reached like this are sound.

## Main definitions

* `Document.Reachable`: the documents that can be reached.

## Main results

* `Document.Sound.addNodes`: what is parsed keeps a document sound.
* `Document.Reachable.sound`: **every document that can be reached is sound**.
* `Document.Reachable.payload?_root`: its root is the node at the top.
-/

namespace TwinRender.Document

/-- The documents that a program can get, from the parser and by edits. Edits that are refused
change nothing. -/
inductive Reachable : Document → Prop where
  /-- The empty document. -/
  | empty : Reachable .empty
  /-- A parsed document. -/
  | parse (markup : String) : Reachable (.parse markup)
  /-- A new element. -/
  | createElement {d : Document} (h : Reachable d) (tag : String) :
      Reachable (d.createElement tag).1
  /-- A new text. -/
  | createText {d : Document} (h : Reachable d) (text : String) : Reachable (d.createText text).1
  /-- A new comment. -/
  | createComment {d : Document} (h : Reachable d) (text : String) :
      Reachable (d.createComment text).1
  /-- An attribute gets a value. -/
  | setAttribute {d d' : Document} (h : Reachable d) {id : NodeId} {name value : String}
      (edit : d.setAttribute id name value = .ok d') : Reachable d'
  /-- An attribute is taken away. -/
  | removeAttribute {d d' : Document} (h : Reachable d) {id : NodeId} {name : String}
      {value : Option String} (edit : d.removeAttribute id name = .ok (d', value)) : Reachable d'
  /-- A text or a comment gets other data. -/
  | setText {d d' : Document} (h : Reachable d) {id : NodeId} {text : String}
      (edit : d.setText id text = .ok d') : Reachable d'
  /-- A node is put behind the children of another. -/
  | appendChild {d d' : Document} (h : Reachable d) {parent child : NodeId}
      (edit : d.appendChild parent child = .ok d') : Reachable d'
  /-- A node is put before a child of another. -/
  | insertBefore {d d' : Document} (h : Reachable d) {parent child reference : NodeId}
      (edit : d.insertBefore parent child reference = .ok d') : Reachable d'
  /-- A child is taken from a node. -/
  | removeChild {d d' : Document} (h : Reachable d) {parent child : NodeId}
      (edit : d.removeChild parent child = .ok d') : Reachable d'
  /-- A node is put in the place of a child of another. -/
  | replaceChild {d d' : Document} (h : Reachable d) {parent new old : NodeId}
      (edit : d.replaceChild parent new old = .ok d') : Reachable d'

variable {d d' : Document}

/-! ### Added nodes -/

/-- The payloads after a node is added below another. -/
theorem payload?_grow {parent : NodeId} {payload : Payload} (i : NodeId) :
    (d.grow parent payload).1.payload? i =
      if i = d.cells.size then some payload else d.payload? i := by
  rw [grow, payload?_withChildren, payload?, cell?_push]
  split <;> rfl

/-- The parents after a node is added below another. -/
theorem parent?_grow {parent : NodeId} {payload : Payload} (i : NodeId) :
    (d.grow parent payload).1.parent? i =
      if i = d.cells.size then some parent else d.parent? i := by
  rw [grow, parent?_withChildren, parent?, cell?_push]
  split <;> rfl

/-- The children after a node is added below another. -/
theorem children_grow {parent : NodeId} (h : parent < d.cells.size) {payload : Payload}
    (i : NodeId) :
    (d.grow parent payload).1.children i =
      if i = parent then d.children parent ++ [d.cells.size] else d.children i := by
  have hsize : parent < (d.cells.push (⟨payload, some parent, []⟩ : Cell)).size := by
    rw [Array.size_push]
    exact Nat.lt_succ_of_lt h
  rw [grow, children_withChildren hsize]
  by_cases hi : i = parent
  · rw [if_pos hi, if_pos hi]
  · rw [if_neg hi, if_neg hi, children, cell?_push]
    by_cases hlast : i = d.cells.size
    · rw [if_pos hlast, hlast, children_eq_nil (le_refl _)]
      rfl
    · rw [if_neg hlast, children]

namespace Sound

/-! ### Edits of values -/

/-- An attribute with another value keeps a document sound. -/
theorem setAttribute (hd : d.Sound) {id : NodeId} {name value : String}
    (h : d.setAttribute id name value = .ok d') : d'.Sound := by
  obtain ⟨tag, attributes, hid, rfl⟩ := setAttribute_eq_ok_iff.mp h
  have hnames := hd.lowercase id tag attributes hid
  refine hd.withPayload hid rfl fun tag' attributes' heq => ?_
  cases heq
  refine ⟨hnames.tag, fun other hother => ?_⟩
  rcases OrderedMap.mem_keys_insert.mp hother with rfl | hother
  · exact toLower_toLower name
  · exact hnames.attributes other hother

/-- An element without one of its attributes keeps a document sound. -/
theorem removeAttribute (hd : d.Sound) {id : NodeId} {name : String} {value : Option String}
    (h : d.removeAttribute id name = .ok (d', value)) : d'.Sound := by
  obtain ⟨tag, attributes, hid, -, rfl⟩ := removeAttribute_eq_ok_iff.mp h
  have hnames := hd.lowercase id tag attributes hid
  split
  · exact hd
  · refine hd.withPayload hid rfl fun tag' attributes' heq => ?_
    cases heq
    refine ⟨hnames.tag, fun other hother => ?_⟩
    rw [OrderedMap.keys_erase] at hother
    exact hnames.attributes other (List.mem_of_mem_filter hother)

/-- Other character data keep a document sound. -/
theorem setText (hd : d.Sound) {id : NodeId} {text : String} (h : d.setText id text = .ok d') :
    d'.Sound := by
  obtain ⟨payload, hpayload, rfl⟩ := setText_eq_ok_iff.mp h
  rcases hpayload with ⟨before, hid, rfl⟩ | ⟨before, hid, rfl⟩
  · exact hd.withPayload hid rfl fun _ _ heq => by cases heq
  · exact hd.withPayload hid rfl fun _ _ heq => by cases heq

/-! ### Parsed nodes -/

/-- A node that is added below another keeps a document sound, and what was known. -/
theorem grow (hd : d.Sound) {parent : NodeId} {payload : Payload}
    (hcontainer : (d.payload? parent).any Payload.isContainer = true)
    (hnames : ∀ tag attributes, payload = .element tag attributes →
      VNode.HasLowercaseNames tag attributes) : (d.grow parent payload).1.Sound := by
  obtain ⟨above, habove, -⟩ := (Option.any_eq_true _ _).mp hcontainer
  have hparent := lt_size_of_payload? habove
  have hfree : (d.create payload).1.parent? d.cells.size = none := by
    rw [parent?_create]
    exact parent?_eq_none (le_refl _)
  have hcreate := hd.create hnames
  have hchildren : (d.create payload).1.children parent = d.children parent :=
    children_create d payload parent
  refine @relinked _ _ parent hcreate (d.children parent ++ [d.cells.size])
    ⟨fun i => ?_, fun p => ?_, fun c p => ?_⟩ ?_ ?_ fun c hc => ?_
  · rw [payload?_grow, payload?_create]
  · rw [children_grow hparent, children_create]
  · rw [parent?_grow, List.mem_append, List.mem_singleton, ← hd.linked, parent?_create]
    by_cases hc : c = d.cells.size
    · subst hc
      have hnone : d.parent? d.cells.size = none := parent?_eq_none (le_refl _)
      by_cases hp : p = parent
      · simp [hp]
      · simp [hp, hnone, Ne.symm hp]
    · by_cases hp : p = parent <;> simp [hc, hp]
  · rwa [payload?_create, if_neg (Nat.ne_of_lt hparent)]
  · refine List.nodup_append.mpr ⟨hd.nodup parent, List.nodup_singleton _, ?_⟩
    rintro c hc _ hsize rfl
    rw [List.mem_singleton] at hsize
    exact absurd (hd.child_lt_size hc) (hsize ▸ Nat.lt_irrefl _)
  · rw [hchildren]
    rcases List.mem_append.mp hc with hc | hc
    · exact Or.inl hc
    · rw [List.mem_singleton] at hc
      subst hc
      -- nothing stands below the new node
      refine Or.inr ⟨hfree, fun habove => ?_⟩
      rcases Relation.ReflTransGen.cases_tail habove with heq | ⟨b, -, hb⟩
      · exact absurd hparent (heq ▸ Nat.lt_irrefl _)
      · rw [hcreate.linked, children_create, children_eq_nil (le_refl _)] at hb
        cases hb

mutual

/-- A parsed node below another keeps a document sound, and the payloads that were known. -/
theorem addNode {d : Document} (hd : d.Sound) {parent : NodeId}
    (hcontainer : (d.payload? parent).any Payload.isContainer = true) (n : Markup.Node) :
    (d.addNode parent n).Sound ∧
      ∀ i, (d.payload? i).isSome → (d.addNode parent n).payload? i = d.payload? i := by
  have hkeep (payload : Payload) (i : NodeId) (hi : (d.payload? i).isSome) :
      (d.grow parent payload).1.payload? i = d.payload? i := by
    rw [payload?_grow, if_neg]
    rintro rfl
    rw [payload?_eq_none (le_refl _)] at hi
    cases hi
  cases n with
  | element tag attributes children =>
      have hgrown :
          (d.grow parent (.element tag.toLower attributes.lowerKeys)).1.Sound := by
        refine hd.grow hcontainer fun tag' attributes' heq => ?_
        cases heq
        exact ⟨toLower_toLower tag, fun _ => OrderedMap.toLower_of_mem_lowerKeys⟩
      have htop : ((d.grow parent (.element tag.toLower attributes.lowerKeys)).1.payload?
          d.cells.size).any Payload.isContainer = true := by
        rw [payload?_grow, if_pos rfl]
        rfl
      obtain ⟨hsound, hrest⟩ := addNodes hgrown htop children
      refine ⟨hsound, fun i hi => ?_⟩
      have hfirst := hkeep (.element tag.toLower attributes.lowerKeys) i hi
      exact (hrest i (by rwa [hfirst])).trans hfirst
  | text s => exact ⟨hd.grow hcontainer (fun _ _ heq => Payload.noConfusion heq), hkeep (.text s)⟩
  | comment s =>
      exact ⟨hd.grow hcontainer (fun _ _ heq => Payload.noConfusion heq), hkeep (.comment s)⟩
  | doctype _ | instruction _ _ | fragment _ => exact ⟨hd, fun _ _ => rfl⟩

/-- **Parsed nodes below another keep a document sound**, and the payloads that were known. -/
theorem addNodes {d : Document} (hd : d.Sound) {parent : NodeId}
    (hcontainer : (d.payload? parent).any Payload.isContainer = true) (ns : List Markup.Node) :
    (d.addNodes parent ns).Sound ∧
      ∀ i, (d.payload? i).isSome → (d.addNodes parent ns).payload? i = d.payload? i := by
  cases ns with
  | nil => exact ⟨hd, fun _ _ => rfl⟩
  | cons n ns =>
      obtain ⟨hfirst, hkeep⟩ := addNode hd hcontainer n
      have hparent : (d.payload? parent).isSome := by
        rw [Option.any_eq_true] at hcontainer
        obtain ⟨payload, hpayload, -⟩ := hcontainer
        rw [hpayload]
        rfl
      obtain ⟨hrest, hkeep'⟩ := addNodes hfirst (by rwa [hkeep parent hparent]) ns
      refine ⟨hrest, fun i hi => ?_⟩
      exact (hkeep' i (by rwa [hkeep i hi])).trans (hkeep i hi)

end

/-- The document of parsed nodes is sound. -/
theorem ofForest (nodes : List Markup.Node) : (Document.ofForest nodes).Sound :=
  (Sound.empty.addNodes rfl nodes).1

/-- A parsed document is sound. -/
theorem parse (markup : String) : (Document.parse markup).Sound :=
  Sound.ofForest (Markup.parse markup)

end Sound

/-! ### Reachable documents -/

/-- **Every document that can be reached is sound.** -/
theorem Reachable.sound (h : d.Reachable) : d.Sound := by
  induction h with
  | empty => exact Sound.empty
  | parse markup => exact Sound.parse markup
  | createElement _ tag ih => exact ih.createElement tag
  | createText _ text ih => exact ih.createText text
  | createComment _ text ih => exact ih.createComment text
  | setAttribute _ edit ih => exact ih.setAttribute edit
  | removeAttribute _ edit ih => exact ih.removeAttribute edit
  | setText _ edit ih => exact ih.setText edit
  | appendChild _ edit ih => exact ih.appendChild edit
  | insertBefore _ edit ih => exact ih.insertBefore edit
  | removeChild _ edit ih => exact ih.removeChild edit
  | replaceChild _ edit ih => exact ih.replaceChild edit

/-- **The root of a document is the node at the top**, whatever was edited. -/
theorem Reachable.payload?_root (h : d.Reachable) : d.payload? root = some .document := by
  -- an edit of values changes the payload of an element, a text or a comment
  have hvalue {d : Document} (hroot : d.payload? root = some .document) {id : NodeId}
      {before payload : Payload} (hid : d.payload? id = some before) (hne : before ≠ .document) :
      ((d.withPayload id payload).counted).payload? root = some .document := by
    rw [payload?_counted, payload?_withPayload (lt_size_of_payload? hid), if_neg, hroot]
    rintro rfl
    exact hne (Option.some.inj (hid.symm.trans hroot))
  have hnew {d : Document} (hroot : d.payload? root = some .document) (payload : Payload) :
      (d.create payload).1.payload? root = some .document := by
    rw [payload?_create, if_neg (Nat.ne_of_lt (lt_size_of_payload? hroot)), hroot]
  induction h with
  | empty => rfl
  | parse markup => exact (Sound.empty.addNodes rfl (Markup.parse markup)).2 root rfl
  | createElement _ tag ih => exact hnew ih _
  | createText _ text ih => exact hnew ih _
  | createComment _ text ih => exact hnew ih _
  | setAttribute _ edit ih =>
      obtain ⟨tag, attributes, hid, rfl⟩ := setAttribute_eq_ok_iff.mp edit
      exact hvalue ih hid Payload.noConfusion
  | removeAttribute _ edit ih =>
      obtain ⟨tag, attributes, hid, -, rfl⟩ := removeAttribute_eq_ok_iff.mp edit
      split
      · exact ih
      · exact hvalue ih hid Payload.noConfusion
  | setText _ edit ih =>
      obtain ⟨payload, ⟨before, hid, -⟩ | ⟨before, hid, -⟩, rfl⟩ := setText_eq_ok_iff.mp edit
      · exact hvalue ih hid Payload.noConfusion
      · exact hvalue ih hid Payload.noConfusion
  | appendChild _ edit ih =>
      obtain ⟨-, rfl⟩ := appendChild_eq_ok_iff.mp edit
      simpa using ih
  | insertBefore _ edit ih =>
      obtain ⟨-, -, rfl⟩ := insertBefore_eq_ok_iff.mp edit
      simpa using ih
  | removeChild _ edit ih =>
      obtain ⟨-, rfl⟩ := removeChild_eq_ok_iff.mp edit
      simpa using ih
  | replaceChild _ edit ih =>
      obtain ⟨-, -, rfl⟩ := replaceChild_eq_ok_iff.mp edit
      simpa using ih

end TwinRender.Document
