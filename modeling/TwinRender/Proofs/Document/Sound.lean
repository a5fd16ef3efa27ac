import TwinRender.Proofs.Document.Cells
import TwinRender.Proofs.VNode

/-!
# Sound documents

In a sound document parents and children agree, nothing stands in two places or below itself, only
nodes that may have children have some, and names are in lower case. Every edit that is not refused
keeps a document sound: each of them gives one node other children, of which those that are new
stood nowhere, and not above the node.

## Main definitions

* `Document.Above`: a node is another one or stands above it.
* `Document.Sound`: the invariant of documents.
* `Document.Relinked`: one node has got other children.

## Main results

* `Document.Sound.mem_ancestors_iff`: the way up finds exactly the nodes above.
* `Document.Sound.relinked`: other children keep a document sound.
* `Document.Sound.appendChild`, `Document.Sound.insertBefore`, `Document.Sound.removeChild`,
  `Document.Sound.replaceChild`: **edits of links keep a document sound**.
-/

namespace TwinRender.Document

variable {d d' : Document}

/-! ### The way up -/

/-- The first node is the second one, or stands above it. -/
def Above (d : Document) (a x : NodeId) : Prop :=
  Relation.ReflTransGen (fun c p => d.parent? c = some p) x a

namespace Above

variable {a b x p : NodeId}

/-- A node is above itself. -/
theorem refl (d : Document) (x : NodeId) : d.Above x x := Relation.ReflTransGen.refl

/-- What is above a parent is above its child. -/
theorem of_parent (h : d.parent? x = some p) (ha : d.Above a p) : d.Above a x :=
  Relation.ReflTransGen.head h ha

/-- What is above the upper one of two nodes is above the lower one. -/
theorem trans (ha : d.Above a b) (hb : d.Above b x) : d.Above a x :=
  Relation.ReflTransGen.trans hb ha

/-- A node above another one is the other one, or above its parent. -/
theorem eq_or_parent (h : d.Above a x) : x = a ∨ ∃ p, d.parent? x = some p ∧ d.Above a p := by
  rcases Relation.ReflTransGen.cases_head h with heq | ⟨p, hp, hrest⟩
  · exact Or.inl heq
  · exact Or.inr ⟨p, hp, hrest⟩

/-- Of two nodes above a third one, one is above the other. -/
theorem total (ha : d.Above a x) (hb : d.Above b x) : d.Above a b ∨ d.Above b a :=
  (Relation.ReflTransGen.total_of_right_unique
    (fun _ _ _ h h' => Option.some.inj (h.symm.trans h')) ha hb).symm

end Above

/-- What the way up finds is above. -/
theorem above_of_mem_climb {n : Nat} {a x : NodeId} (h : a ∈ d.climb n x) : d.Above a x := by
  induction n generalizing x with
  | zero =>
      rw [climb, List.mem_singleton] at h
      rw [h]
      exact Above.refl d x
  | succ n ih =>
      rw [climb] at h
      cases hp : d.parent? x with
      | none =>
          rw [hp, List.mem_singleton] at h
          rw [h]
          exact Above.refl d x
      | some p =>
          rw [hp, List.mem_cons] at h
          rcases h with rfl | h
          · exact Above.refl d a
          · exact Above.of_parent hp (ih h)

/-- The way up begins with the node. -/
theorem mem_climb_self (d : Document) (n : Nat) (x : NodeId) : x ∈ d.climb n x := by
  cases n with
  | zero => simp [climb]
  | succ n =>
      rw [climb]
      cases d.parent? x <;> simp

/-- A way up that misses a node above is as long as it can be. -/
theorem length_climb {n : Nat} {a x : NodeId} (ha : d.Above a x) (hmiss : a ∉ d.climb n x) :
    (d.climb n x).length = n + 1 := by
  induction n generalizing x with
  | zero => rfl
  | succ n ih =>
      rcases ha.eq_or_parent with rfl | ⟨p, hp, hrest⟩
      · exact absurd (mem_climb_self d _ x) hmiss
      · rw [climb, hp] at hmiss ⊢
        rw [List.length_cons, ih hrest fun h => hmiss (List.mem_cons_of_mem _ h)]

/-! ### The invariant -/

/-- The invariant of documents. -/
structure Sound (d : Document) : Prop where
  /-- A node has a parent exactly when it stands among the children of the parent. -/
  linked : ∀ c p, d.parent? c = some p ↔ c ∈ d.children p
  /-- No node stands twice among the children of another. -/
  nodup : ∀ p, (d.children p).Nodup
  /-- Only nodes that may have children have some. -/
  container : ∀ p, d.children p ≠ [] → (d.payload? p).any Payload.isContainer = true
  /-- Every node stands lower than its parent, for some measure of height. -/
  acyclic : ∃ rank : NodeId → Nat, ∀ c p, d.parent? c = some p → rank p < rank c
  /-- The names of elements and attributes are in lower case. -/
  lowercase : ∀ id tag attributes, d.payload? id = some (.element tag attributes) →
    VNode.HasLowercaseNames tag attributes

namespace Sound

/-- A parent is known. -/
theorem parent_lt_size (hd : d.Sound) {c p : NodeId} (h : d.parent? c = some p) :
    p < d.cells.size :=
  lt_size_of_mem_children ((hd.linked c p).mp h)

/-- A child is known. -/
theorem child_lt_size (hd : d.Sound) {c p : NodeId} (h : c ∈ d.children p) : c < d.cells.size :=
  lt_size_of_parent? ((hd.linked c p).mpr h)

/-- The nodes above a known node are known. -/
theorem above_lt_size (hd : d.Sound) {a x : NodeId} (ha : d.Above a x) (hx : x < d.cells.size) :
    a < d.cells.size := by
  induction ha with
  | refl => exact hx
  | tail _ hp _ => exact hd.parent_lt_size hp

/-- The nodes above a node have no greater rank. -/
theorem rank_le_of_above {rank : NodeId → Nat}
    (hrank : ∀ c p, d.parent? c = some p → rank p < rank c) {a x : NodeId} (ha : d.Above a x) :
    rank a ≤ rank x := by
  induction ha with
  | refl => exact le_refl _
  | tail _ hp ih => exact (Nat.le_of_lt (hrank _ _ hp)).trans ih

/-- No node is above its own parent. -/
theorem not_above_parent (hd : d.Sound) {x p : NodeId} (h : d.parent? x = some p) :
    ¬ d.Above x p := by
  obtain ⟨rank, hrank⟩ := hd.acyclic
  intro hx
  exact absurd (rank_le_of_above hrank hx) (Nat.not_le_of_lt (hrank x p h))

/-- Nothing is below a text or a comment. -/
theorem children_eq_nil_of_data? (hd : d.Sound) {id : NodeId} (h : (d.data? id).isSome) :
    d.children id = [] := by
  by_contra hsome
  obtain ⟨payload, hpayload, hcontainer⟩ := (Option.any_eq_true _ _).mp (hd.container id hsome)
  rw [data?, hpayload] at h
  cases payload with
  | document | element _ _ => cases h
  | text _ | comment _ => cases hcontainer

/-- The way up never comes to a node twice. -/
theorem nodup_climb (hd : d.Sound) (n : Nat) (x : NodeId) : (d.climb n x).Nodup := by
  induction n generalizing x with
  | zero => simp [climb]
  | succ n ih =>
      rw [climb]
      cases hp : d.parent? x with
      | none => simp
      | some p =>
          refine List.nodup_cons.mpr ⟨fun hmem => ?_, ih p⟩
          exact hd.not_above_parent hp (above_of_mem_climb hmem)

/-- **The way up finds exactly the nodes above**: no chain of parents is longer than the store. -/
theorem mem_ancestors_iff (hd : d.Sound) {a x : NodeId} (hx : x < d.cells.size) :
    a ∈ d.ancestors x ↔ d.Above a x := by
  refine ⟨above_of_mem_climb, fun ha => ?_⟩
  by_contra hmiss
  have hlength := length_climb ha hmiss
  have hsubset : (d.climb d.cells.size x).toFinset ⊆ Finset.range d.cells.size := by
    intro y hy
    exact Finset.mem_range.mpr
      (hd.above_lt_size (above_of_mem_climb (List.mem_toFinset.mp hy)) hx)
  have hcard := Finset.card_le_card hsubset
  rw [List.toFinset_card_of_nodup (hd.nodup_climb _ x), hlength, Finset.card_range] at hcard
  omega

/-- The document without nodes is sound. -/
theorem empty : Document.empty.Sound := by
  have hcell (i : NodeId) : Document.empty.cell? i =
      if i = 0 then some ⟨.document, none, []⟩ else none := by
    rcases i with _ | i <;> rfl
  have hparent (i : NodeId) : Document.empty.parent? i = none := by
    rw [parent?, hcell]
    split <;> rfl
  have hchildren (i : NodeId) : Document.empty.children i = [] := by
    rw [children, hcell]
    split <;> rfl
  refine ⟨fun c p => by simp [hparent, hchildren], fun p => by simp [hchildren],
    fun p h => absurd (hchildren p) h, ⟨fun _ => 0, fun c p h => ?_⟩, fun id tag attributes h => ?_⟩
  · rw [hparent] at h
    cases h
  · rw [payload?, hcell] at h
    split at h <;> cases h

end Sound

/-! ### Edits of links -/

/-- One node has got other children, and nothing else has changed. -/
structure Relinked (d d' : Document) (parent : NodeId) (below : List NodeId) : Prop where
  /-- No payload has changed. -/
  payload : ∀ i, d'.payload? i = d.payload? i
  /-- The children of one node have changed. -/
  children : ∀ p, d'.children p = if p = parent then below else d.children p
  /-- The parents are the ones that go with the children. -/
  parent : ∀ c p, d'.parent? c = some p ↔
    if p = parent then c ∈ below else d.parent? c = some p

namespace Sound

variable {parent child reference new old : NodeId}

open Classical in
/-- **Other children keep a document sound**, if the new ones among them stood nowhere and not
above their parent. -/
theorem relinked (hd : d.Sound) {below : List NodeId} (h : Relinked d d' parent below)
    (hcontainer : (d.payload? parent).any Payload.isContainer = true) (hnodup : below.Nodup)
    (hnew : ∀ c ∈ below,
      c ∈ d.children parent ∨ d.parent? c = none ∧ ¬ d.Above c parent) : d'.Sound := by
  refine ⟨fun c p => ?_, fun p => ?_, fun p hp => ?_, ?_, fun id tag attributes hid => ?_⟩
  · rw [h.parent, h.children]
    split
    · rfl
    · exact hd.linked c p
  · rw [h.children]
    split
    · exact hnodup
    · exact hd.nodup p
  · rw [h.payload]
    by_cases hparent : p = parent
    · rw [hparent]
      exact hcontainer
    · rw [h.children, if_neg hparent] at hp
      exact hd.container p hp
  · -- what comes to stand below the parent is put below its height
    obtain ⟨rank, hrank⟩ := hd.acyclic
    let moved (x : NodeId) : Prop := ∃ n ∈ below, n ∉ d.children parent ∧ d.Above n x
    have hfixed : ¬ moved parent := by
      rintro ⟨n, hn, hnot, habove⟩
      exact (hnew n hn).elim hnot fun hfree => hfree.2 habove
    refine ⟨fun x => if moved x then rank x + rank parent + 1 else rank x, fun c p hparent => ?_⟩
    rw [h.parent] at hparent
    beta_reduce
    by_cases hp : p = parent
    · rw [if_pos hp] at hparent
      subst hp
      rw [if_neg hfixed]
      by_cases hc : c ∈ d.children p
      · have hlt := hrank c p ((hd.linked c p).mpr hc)
        split <;> omega
      · rw [if_pos ⟨c, hparent, hc, Above.refl d c⟩]
        omega
    · rw [if_neg hp] at hparent
      have hmoved : moved c ↔ moved p := by
        constructor
        · rintro ⟨n, hn, hnot, habove⟩
          rcases habove.eq_or_parent with rfl | ⟨q, hq, hrest⟩
          · -- a node that is new among the children stood nowhere
            have hfree := (hnew c hn).resolve_left hnot
            rw [hfree.1] at hparent
            cases hparent
          · obtain rfl : q = p := Option.some.inj (hq.symm.trans hparent)
            exact ⟨n, hn, hnot, hrest⟩
        · rintro ⟨n, hn, hnot, habove⟩
          exact ⟨n, hn, hnot, Above.of_parent hparent habove⟩
      have hlt := hrank c p hparent
      by_cases hm : moved p
      · rw [if_pos hm, if_pos (hmoved.mpr hm)]
        omega
      · rw [if_neg hm, if_neg (fun hc => hm (hmoved.mp hc))]
        exact hlt
  · rw [h.payload] at hid
    exact hd.lowercase id tag attributes hid

/-- What a successful check says about a sound document. -/
theorem insertable (hd : d.Sound) (h : d.checkInsert parent child = .ok ()) :
    parent < d.cells.size ∧ (d.payload? parent).any Payload.isContainer = true ∧
      child < d.cells.size ∧ d.parent? child = none ∧ ¬ d.Above child parent := by
  obtain ⟨⟨p, hp, hcontainer⟩, ⟨c, hc, hfree⟩, hcycle⟩ := checkInsert_eq_ok_iff.mp h
  have hparent := lt_size_of_cell? hp
  refine ⟨hparent, ?_, lt_size_of_cell? hc, ?_, ?_⟩
  · rw [payload?_of_cell? hp]
    exact hcontainer
  · rw [parent?_of_cell? hc, hfree]
  · rwa [← hd.mem_ancestors_iff hparent]

/-- A node that is put below another, at any place among its children. -/
theorem inserted (hd : d.Sound) (h : d.checkInsert parent child = .ok ())
    {below : List NodeId} (hperm : below.Perm (child :: d.children parent)) :
    (((d.withChildren parent below).withParent child (some parent)).counted).Sound := by
  obtain ⟨hparent, hcontainer, hchild, hfree, hcycle⟩ := hd.insertable h
  have hnot : child ∉ d.children parent := by
    rw [← hd.linked, hfree]
    exact Option.not_mem_none _
  refine @relinked _ _ parent hd below ⟨fun i => ?_, fun p => ?_, fun c p => ?_⟩ hcontainer
    ?_ fun c hc => ?_
  · simp
  · simp [children_withChildren hparent]
  · have hmem : c ∈ below ↔ c = child ∨ c ∈ d.children parent := by
      rw [hperm.mem_iff, List.mem_cons]
    rw [parent?_counted, parent?_withParent (by simpa using hchild), parent?_withChildren, hmem,
      ← hd.linked]
    by_cases hc : c = child
    · subst hc
      by_cases hp : p = parent
      · simp [hp]
      · simp [hp, hfree, Ne.symm hp]
    · by_cases hp : p = parent <;> simp [hc, hp]
  · rw [hperm.nodup_iff, List.nodup_cons]
    exact ⟨hnot, hd.nodup parent⟩
  · rcases List.mem_cons.mp (hperm.mem_iff.mp hc) with rfl | hc
    · exact Or.inr ⟨hfree, hcycle⟩
    · exact Or.inl hc

/-- A node behind the children of another keeps a document sound. -/
theorem appendChild (hd : d.Sound) (h : d.appendChild parent child = .ok d') : d'.Sound := by
  obtain ⟨hcheck, rfl⟩ := appendChild_eq_ok_iff.mp h
  exact hd.inserted hcheck (List.perm_append_singleton child (d.children parent))

/-- Putting a node before a member of a list adds the node. -/
theorem putBefore_perm (new reference : NodeId) {below : List NodeId} (h : reference ∈ below) :
    (putBefore new reference below).Perm (new :: below) := by
  induction below with
  | nil => cases h
  | cons c rest ih =>
      rw [putBefore]
      by_cases hc : c = reference
      · rw [if_pos hc]
      · rw [if_neg hc]
        have hrest := ih ((List.mem_cons.mp h).resolve_left (Ne.symm hc))
        exact (hrest.cons c).trans (List.Perm.swap new c rest)

/-- A node before a child of another keeps a document sound. -/
theorem insertBefore (hd : d.Sound) (h : d.insertBefore parent child reference = .ok d') :
    d'.Sound := by
  obtain ⟨hcheck, hreference, rfl⟩ := insertBefore_eq_ok_iff.mp h
  exact hd.inserted hcheck (putBefore_perm child reference (checkChild_eq_ok_iff.mp hreference))

/-- A node without one of its children keeps a document sound. -/
theorem removeChild (hd : d.Sound) (h : d.removeChild parent child = .ok d') : d'.Sound := by
  obtain ⟨hcheck, rfl⟩ := removeChild_eq_ok_iff.mp h
  have hmem := checkChild_eq_ok_iff.mp hcheck
  have hparent := lt_size_of_mem_children hmem
  have hchild := hd.child_lt_size hmem
  refine @relinked _ _ parent hd ((d.children parent).erase child)
    ⟨fun i => ?_, fun p => ?_, fun c p => ?_⟩ (hd.container parent (List.ne_nil_of_mem hmem))
    ((hd.nodup parent).erase child) fun c hc => Or.inl (List.mem_of_mem_erase hc)
  · simp
  · simp [children_withChildren hparent]
  · rw [parent?_counted, parent?_withParent (by simpa using hchild), parent?_withChildren,
      (hd.nodup parent).mem_erase_iff, ← hd.linked]
    have hlinked := (hd.linked child parent).mpr hmem
    by_cases hc : c = child
    · subst hc
      by_cases hp : p = parent
      · simp [hp]
      · simp [hp, hlinked, Ne.symm hp]
    · by_cases hp : p = parent <;> simp [hc, hp]

/-- Replacing a member of a list takes it out and adds the other one. -/
theorem replace_perm {old new : NodeId} {below : List NodeId} (h : old ∈ below) :
    (below.replace old new).Perm (new :: below.erase old) := by
  induction below with
  | nil => cases h
  | cons c rest ih =>
      rw [List.replace_cons]
      by_cases hc : old = c
      · subst hc
        simp
      · have hne : (old == c) = false := by simpa using hc
        have hrest := ih ((List.mem_cons.mp h).resolve_left hc)
        rw [hne, List.erase_cons_tail (by simpa using Ne.symm hc)]
        exact (hrest.cons c).trans (List.Perm.swap new c (rest.erase old))

/-- A node in the place of a child of another keeps a document sound. -/
theorem replaceChild (hd : d.Sound) (h : d.replaceChild parent new old = .ok d') : d'.Sound := by
  obtain ⟨hcheck, hold, rfl⟩ := replaceChild_eq_ok_iff.mp h
  obtain ⟨hparent, hcontainer, hnew, hfree, hcycle⟩ := hd.insertable hcheck
  have hmem := checkChild_eq_ok_iff.mp hold
  have hchild := hd.child_lt_size hmem
  have hnot : new ∉ d.children parent := by
    rw [← hd.linked, hfree]
    exact Option.not_mem_none _
  have hne : new ≠ old := fun heq => hnot (heq ▸ hmem)
  have hperm := @replace_perm old new _ hmem
  refine @relinked _ _ parent hd ((d.children parent).replace old new)
    ⟨fun i => ?_, fun p => ?_, fun c p => ?_⟩ hcontainer ?_ fun c hc => ?_
  · simp
  · simp [children_withChildren hparent]
  · have hin : c ∈ (d.children parent).replace old new ↔
        c = new ∨ c ≠ old ∧ d.parent? c = some parent := by
      rw [hperm.mem_iff, List.mem_cons, (hd.nodup parent).mem_erase_iff, hd.linked]
    have hlinked := (hd.linked old parent).mpr hmem
    rw [parent?_counted, parent?_withParent (by simpa using hchild),
      parent?_withParent (by simpa using hnew), parent?_withChildren, hin]
    by_cases hc : c = old
    · subst hc
      by_cases hp : p = parent
      · simp [hp, Ne.symm hne]
      · simp [hp, hlinked, Ne.symm hp]
    · by_cases hc' : c = new
      · subst hc'
        by_cases hp : p = parent
        · simp [hp, hc]
        · simp [hp, hc, hfree, Ne.symm hp]
      · by_cases hp : p = parent <;> simp [hc, hc', hp]
  · rw [hperm.nodup_iff, List.nodup_cons]
    exact ⟨fun hin => hnot (List.mem_of_mem_erase hin), (hd.nodup parent).erase old⟩
  · rcases List.mem_cons.mp (hperm.mem_iff.mp hc) with rfl | hc
    · exact Or.inr ⟨hfree, hcycle⟩
    · exact Or.inl (List.mem_of_mem_erase hc)

/-! ### New nodes and other payloads -/

/-- A new node keeps a document sound. -/
theorem create (hd : d.Sound) {payload : Payload}
    (hnames : ∀ tag attributes, payload = .element tag attributes →
      VNode.HasLowercaseNames tag attributes) : (d.create payload).1.Sound := by
  refine ⟨fun c p => ?_, fun p => ?_, fun p hp => ?_, ?_, fun id tag attributes hid => ?_⟩
  · simpa using hd.linked c p
  · simpa using hd.nodup p
  · rw [children_create] at hp
    have hknown := hd.container p hp
    have hne : p ≠ d.cells.size := by
      rintro rfl
      exact hp (children_eq_nil (le_refl _))
    rwa [payload?_create, if_neg hne]
  · obtain ⟨rank, hrank⟩ := hd.acyclic
    exact ⟨rank, fun c p h => hrank c p (by simpa using h)⟩
  · rw [payload?_create] at hid
    split at hid
    · exact hnames tag attributes (Option.some.inj hid)
    · exact hd.lowercase id tag attributes hid

/-- A new element keeps a document sound. -/
theorem createElement (hd : d.Sound) (tag : String) : (d.createElement tag).1.Sound := by
  refine hd.create fun tag' attributes h => ?_
  cases h
  exact ⟨toLower_toLower tag, fun name hname => by cases hname⟩

/-- A new text keeps a document sound. -/
theorem createText (hd : d.Sound) (text : String) : (d.createText text).1.Sound :=
  hd.create fun _ _ h => by cases h

/-- A new comment keeps a document sound. -/
theorem createComment (hd : d.Sound) (text : String) : (d.createComment text).1.Sound :=
  hd.create fun _ _ h => by cases h

/-- Another payload of the same kind keeps a document sound. -/
theorem withPayload (hd : d.Sound) {id : NodeId} {before payload : Payload}
    (hid : d.payload? id = some before) (hkind : payload.isContainer = before.isContainer)
    (hnames : ∀ tag attributes, payload = .element tag attributes →
      VNode.HasLowercaseNames tag attributes) : (d.withPayload id payload).counted.Sound := by
  have hknown := lt_size_of_payload? hid
  refine ⟨fun c p => ?_, fun p => ?_, fun p hp => ?_, ?_, fun i tag attributes hi => ?_⟩
  · simpa using hd.linked c p
  · simpa using hd.nodup p
  · have hbefore := hd.container p (by simpa using hp)
    rw [payload?_counted, payload?_withPayload hknown]
    by_cases heq : p = id
    · subst heq
      rw [hid] at hbefore
      rw [if_pos rfl, Option.any_some, hkind]
      exact hbefore
    · rwa [if_neg heq]
  · obtain ⟨rank, hrank⟩ := hd.acyclic
    exact ⟨rank, fun c p h => hrank c p (by simpa using h)⟩
  · rw [payload?_counted, payload?_withPayload hknown] at hi
    split at hi
    · exact hnames tag attributes (Option.some.inj hi)
    · exact hd.lowercase i tag attributes hi

end Sound

end TwinRender.Document
