import TwinRender.Proofs.Document.Operations
import TwinRender.Proofs.Document.Parsed

/-!
# The node at the top

A document starts with its root at the top: the root has no parent, it stands below no node, and
what stands below a detached node is detached as well. All this says no more than that the root has
no parent. An insertion refuses a node that stands somewhere and a node that is above the place,
and the root below a detached element is neither of them; so it is accepted, and the element has the
whole tree below it. No other operation, and no other place, takes the root from the top.

## Main definitions

* `Document.RootOnTop`: the root stands below nothing, and nothing detached has the tree below it.
* `Document.Operation.Buries`: the insertions of the root below a detached node.

## Main results

* `Document.Sound.rootOnTop_iff`: the root is at the top when it has no parent.
* `Document.Sound.parent?_root_perform_iff`: an operation leaves it there unless it buries it.
* `Document.performAll_rootOnTop_iff`: **the root stays at the top of a program's document exactly
  as long as no operation buries it**.
-/

namespace TwinRender.Document

variable {d : Document}

/-! ### At the top -/

/-- The root stands at the top of its tree. -/
structure RootOnTop (d : Document) : Prop where
  /-- It has no parent. -/
  noParent : d.parent? root = none
  /-- It stands among the children of no node. -/
  noChild : ∀ p, root ∉ d.children p
  /-- It stands below no node. -/
  notBelow : ∀ x, root ∉ d.descendants x
  /-- What stands below a detached node is detached. -/
  detached : ∀ x, d.isAttached x = false → ∀ y ∈ d.descendants x, d.isAttached y = false

namespace Sound

/-- The attached nodes are the ones that the root is above. -/
theorem isAttached_iff (hd : d.Sound) (x : NodeId) : d.isAttached x = true ↔ d.Above root x :=
  (hd.climbs root x).eq_true_iff

/-- What the way down visits has a node above it that was to come. -/
theorem above_of_visits (hd : d.Sound) {stack visited : List NodeId} (h : d.Visits stack visited)
    {y : NodeId} (hy : y ∈ visited) : ∃ x ∈ stack, d.Above x y := by
  induction h with
  | done => cases hy
  | @next x stack visited _ ih =>
      rcases List.mem_cons.mp hy with rfl | hy
      · exact ⟨y, List.mem_cons_self, Above.refl d y⟩
      · obtain ⟨c, hc, habove⟩ := ih hy
        rcases List.mem_append.mp hc with hc | hc
        · -- a child of the visited node, which is thus above as well
          have hparent := (hd.linked c x).mpr hc
          exact ⟨x, List.mem_cons_self, (Above.of_parent hparent (Above.refl d x)).trans habove⟩
        · exact ⟨c, List.mem_cons_of_mem x hc, habove⟩

/-- A node is above its descendants. -/
theorem above_of_mem_descendants (hd : d.Sound) {x y : NodeId} (hy : y ∈ d.descendants x) :
    ∃ c ∈ d.children x, d.Above c y :=
  hd.above_of_visits (hd.visits x) hy

/-- **The root is at the top when it has no parent.** -/
theorem rootOnTop_iff (hd : d.Sound) : d.RootOnTop ↔ d.parent? root = none := by
  refine ⟨RootOnTop.noParent, fun htop => ?_⟩
  have habove {x : NodeId} (h : d.Above x root) : x = root := by
    rcases h.eq_or_parent with heq | ⟨p, hp, -⟩
    · exact heq.symm
    · rw [htop] at hp
      cases hp
  have hchild (p : NodeId) : root ∉ d.children p := by
    rw [← hd.linked, htop]
    exact Option.not_mem_none _
  refine ⟨htop, hchild, fun x hx => ?_, fun x hx y hy => ?_⟩
  · obtain ⟨c, hc, hcroot⟩ := hd.above_of_mem_descendants hx
    exact hchild x (habove hcroot ▸ hc)
  · obtain ⟨c, hc, hcy⟩ := hd.above_of_mem_descendants hy
    have hxy : d.Above x y :=
      (Above.of_parent ((hd.linked c x).mpr hc) (Above.refl d x)).trans hcy
    rw [Bool.eq_false_iff] at hx ⊢
    intro hattached
    -- of the root and the node above, one is above the other
    rcases ((hd.isAttached_iff y).mp hattached).total hxy with hroot | hroot
    · exact hx ((hd.isAttached_iff x).mpr hroot)
    · rw [habove hroot] at hx
      exact hx ((hd.isAttached_iff root).mpr (Above.refl d root))

end Sound

/-! ### Insertions of the root -/

/-- The operation puts the root below a node that may have children and is detached. -/
inductive Operation.Buries (d : Document) : Operation → Prop where
  /-- Behind the children of the node. -/
  | append {parent : NodeId} (hcontainer : (d.payload? parent).any Payload.isContainer = true)
    (hdetached : d.isAttached parent = false) : Buries d (.appendChild parent root)
  /-- Before a child of the node. -/
  | before {parent reference : NodeId}
    (hcontainer : (d.payload? parent).any Payload.isContainer = true)
    (hdetached : d.isAttached parent = false) (hreference : reference ∈ d.children parent) :
    Buries d (.insertBefore parent root reference)
  /-- In the place of a child of the node. -/
  | replace {parent old : NodeId}
    (hcontainer : (d.payload? parent).any Payload.isContainer = true)
    (hdetached : d.isAttached parent = false) (hold : old ∈ d.children parent) :
    Buries d (.replaceChild parent root old)

/-- The check before an insertion accepts the root below every detached node that may have
children. -/
theorem checkInsert_root_iff (hknown : root < d.cells.size) (htop : d.parent? root = none)
    (parent : NodeId) :
    d.checkInsert parent root = .ok () ↔
      (d.payload? parent).any Payload.isContainer = true ∧ d.isAttached parent = false := by
  obtain ⟨c, hc⟩ := Option.isSome_iff_exists.mp (isSome_cell?_iff.mpr hknown)
  have hfree : ∃ c, d.cell? root = some c ∧ c.parent = none :=
    ⟨c, hc, by rwa [parent?_of_cell? hc] at htop⟩
  have hcontainer : (∃ p, d.cell? parent = some p ∧ p.payload.isContainer = true) ↔
      (d.payload? parent).any Payload.isContainer = true := by
    rw [payload?]
    cases d.cell? parent <;> simp
  rw [checkInsert_eq_ok_iff, hcontainer, isAttached, Bool.eq_false_iff, Ne, List.contains_iff_mem]
  exact ⟨fun h => ⟨h.1, h.2.2⟩, fun h => ⟨h.1, hfree, h.2⟩⟩

/-! ### Steps -/

/-- An edit that keeps the parent of the root, if it is not refused. -/
theorem parent?_root_edited (htop : d.parent? root = none) {edit : Except DomError Document}
    (h : ∀ next, edit = .ok next → next.parent? root = none) :
    (d.edited edit).1.parent? root = none := by
  cases edit with
  | error e => exact htop
  | ok next => exact h next rfl

/-- An insertion takes the root from the top exactly when it is the root that is inserted, and at a
place that the checks accept. -/
theorem parent?_root_insertion (hknown : root < d.cells.size) (htop : d.parent? root = none)
    {edit : Except DomError Document} {parent child : NodeId} {place : Prop} {result : Document}
    (hedit : ∀ next, edit = .ok next ↔
      d.checkInsert parent child = .ok () ∧ place ∧ next = result)
    (hresult : d.checkInsert parent child = .ok () → place →
      (result.parent? root = none ↔ child ≠ root)) :
    (d.edited edit).1.parent? root = none ↔
      ¬ (child = root ∧ (d.payload? parent).any Payload.isContainer = true ∧
        d.isAttached parent = false ∧ place) := by
  by_cases haccepted : d.checkInsert parent child = .ok () ∧ place
  · obtain ⟨hcheck, hplace⟩ := haccepted
    rw [(hedit result).mpr ⟨hcheck, hplace, rfl⟩]
    refine (hresult hcheck hplace).trans (not_congr ⟨fun heq => ?_, And.left⟩)
    subst heq
    obtain ⟨hcontainer, hdetached⟩ := (checkInsert_root_iff hknown htop parent).mp hcheck
    exact ⟨rfl, hcontainer, hdetached, hplace⟩
  · refine iff_of_true (parent?_root_edited htop fun next h => ?_) ?_
    · obtain ⟨hcheck, hplace, -⟩ := (hedit next).mp h
      exact absurd ⟨hcheck, hplace⟩ haccepted
    · rintro ⟨rfl, hcontainer, hdetached, hplace⟩
      have hcheck := (checkInsert_root_iff hknown htop parent).mpr ⟨hcontainer, hdetached⟩
      exact haccepted ⟨hcheck, hplace⟩

/-- A node with another parent, which may be the root. -/
theorem parent?_root_inserted {below : List NodeId} {parent child : NodeId}
    (hchild : child < d.cells.size) (htop : d.parent? root = none) :
    ((d.withChildren parent below).withParent child (some parent)).counted.parent? root = none ↔
      child ≠ root := by
  rw [parent?_counted, parent?_withParent (by simpa using hchild), parent?_withChildren, htop]
  by_cases h : root = child
  · simp [h]
  · simp [h, Ne.symm h]

/-- A node that replaces another, of which the first may be the root. -/
theorem parent?_root_replaced {below : List NodeId} {parent new old : NodeId}
    (hnew : new < d.cells.size) (hold : old < d.cells.size) (hne : old ≠ root)
    (htop : d.parent? root = none) :
    (((d.withChildren parent below).withParent new (some parent)).withParent old
      none).counted.parent? root = none ↔ new ≠ root := by
  rw [parent?_counted, parent?_withParent (by simpa using hold), if_neg (Ne.symm hne)]
  exact parent?_root_inserted hnew htop

namespace Sound

/-- **An operation leaves the root at the top unless it buries it.** -/
theorem parent?_root_perform_iff (hd : d.Sound) (hknown : root < d.cells.size)
    (htop : d.parent? root = none) (op : Operation) :
    (d.perform op).1.parent? root = none ↔ ¬ op.Buries d := by
  have hchild {p c : NodeId} (hc : c ∈ d.children p) : c ≠ root := by
    rintro rfl
    exact (hd.rootOnTop_iff.mpr htop).noChild p hc
  have hcreate (payload : Payload) : (d.create payload).1.parent? root = none := by
    rwa [parent?_create]
  cases op with
  | createElement _ | createText _ | createComment _ => exact iff_of_true (hcreate _) nofun
  | setAttribute id name value =>
      refine iff_of_true (parent?_root_edited htop fun next h => ?_) nofun
      obtain ⟨_, _, -, rfl⟩ := setAttribute_eq_ok_iff.mp h
      rwa [parent?_counted, parent?_withPayload]
  | removeAttribute id name =>
      refine iff_of_true (parent?_root_edited htop fun next h => ?_) nofun
      cases hremoved : d.removeAttribute id name with
      | error e => rw [hremoved] at h; cases h
      | ok removed =>
          rw [hremoved] at h
          obtain rfl : removed.1 = next := Except.ok.inj h
          obtain ⟨_, _, -, -, heq⟩ := removeAttribute_eq_ok_iff.mp hremoved
          rw [heq]
          split
          · exact htop
          · rwa [parent?_counted, parent?_withPayload]
  | setText id text =>
      refine iff_of_true (parent?_root_edited htop fun next h => ?_) nofun
      obtain ⟨_, -, rfl⟩ := setText_eq_ok_iff.mp h
      rwa [parent?_counted, parent?_withPayload]
  | removeChild parent child =>
      refine iff_of_true (parent?_root_edited htop fun next h => ?_) nofun
      obtain ⟨hcheck, rfl⟩ := removeChild_eq_ok_iff.mp h
      have hmem := checkChild_eq_ok_iff.mp hcheck
      rwa [parent?_counted, parent?_withParent (by simpa using hd.child_lt_size hmem),
        if_neg (Ne.symm (hchild hmem)), parent?_withChildren]
  | appendChild parent child =>
      have hedit (next : Document) : d.appendChild parent child = .ok next ↔
          d.checkInsert parent child = .ok () ∧ True ∧
            next = ((d.withChildren parent (d.children parent ++ [child])).withParent child
              (some parent)).counted := by
        rw [true_and]
        exact appendChild_eq_ok_iff
      refine (parent?_root_insertion hknown htop hedit fun hcheck _ =>
        parent?_root_inserted (hd.insertable hcheck).2.2.1 htop).trans (not_congr ⟨?_, fun h => ?_⟩)
      · rintro ⟨rfl, hcontainer, hdetached, -⟩
        exact .append hcontainer hdetached
      · cases h with
        | append hcontainer hdetached => exact ⟨rfl, hcontainer, hdetached, trivial⟩
  | insertBefore parent child reference =>
      refine (parent?_root_insertion hknown htop (fun next => insertBefore_eq_ok_iff)
        fun hcheck _ => parent?_root_inserted (hd.insertable hcheck).2.2.1 htop).trans
        (not_congr ⟨?_, fun h => ?_⟩)
      · rintro ⟨rfl, hcontainer, hdetached, hreference⟩
        exact .before hcontainer hdetached (checkChild_eq_ok_iff.mp hreference)
      · cases h with
        | before hcontainer hdetached hreference =>
            exact ⟨rfl, hcontainer, hdetached, checkChild_eq_ok_iff.mpr hreference⟩
  | replaceChild parent new old =>
      refine (parent?_root_insertion hknown htop (fun next => replaceChild_eq_ok_iff)
        fun hcheck hold => ?_).trans (not_congr ⟨?_, fun h => ?_⟩)
      · have hmem := checkChild_eq_ok_iff.mp hold
        exact parent?_root_replaced (hd.insertable hcheck).2.2.1 (hd.child_lt_size hmem)
          (hchild hmem) htop
      · rintro ⟨rfl, hcontainer, hdetached, hold⟩
        exact .replace hcontainer hdetached (checkChild_eq_ok_iff.mp hold)
      · cases h with
        | replace hcontainer hdetached hold =>
            exact ⟨rfl, hcontainer, hdetached, checkChild_eq_ok_iff.mpr hold⟩

end Sound

/-! ### Runs -/

/-- A program starts with a document whose root has no parent. -/
theorem Origin.parent?_root (o : Origin) :
    root < o.document.cells.size ∧ o.document.parent? root = none := by
  cases o with
  | new => exact ⟨by decide, rfl⟩
  | parsed markup =>
      obtain ⟨hcell, -⟩ := holds_ofForest (Markup.parse markup)
      exact ⟨lt_size_of_cell? hcell, parent?_of_cell? hcell⟩

/-- Operations after others. -/
theorem performAll_append (d : Document) (done : List Operation) (op : Operation) :
    (d.performAll (done ++ [op])).1 = ((d.performAll done).1.perform op).1 := by
  induction done generalizing d with
  | nil => rfl
  | cons first rest ih => exact ih (d.perform first).1

/-- **The root stays at the top of a program's document exactly as long as no operation buries
it**: with whatever the program starts, whatever the numbers in its operations are, and whichever of
them are refused. -/
theorem performAll_rootOnTop_iff (o : Origin) (ops : List Operation) :
    (∀ done, done <+: ops → RootOnTop (o.document.performAll done).1) ↔
      ∀ done op, done ++ [op] <+: ops → ¬ op.Buries (o.document.performAll done).1 := by
  obtain ⟨hknown, htop⟩ := o.parent?_root
  have hsound (done : List Operation) := (performAll_spec o.sound done).sound
  have hstep (done : List Operation) (op : Operation)
      (h : (o.document.performAll done).1.parent? root = none) :
      (o.document.performAll (done ++ [op])).1.parent? root = none ↔
        ¬ op.Buries (o.document.performAll done).1 := by
    have hgrown : root < (o.document.performAll done).1.cells.size := by
      rw [(performAll_spec o.sound done).size]
      exact Nat.lt_add_right _ hknown
    rw [performAll_append]
    exact (hsound done).parent?_root_perform_iff hgrown h op
  constructor
  · intro h done op hprefix
    have hbefore := h done ((List.prefix_append done [op]).trans hprefix)
    exact (hstep done op hbefore.noParent).mp (h _ hprefix).noParent
  · intro h done hdone
    refine (hsound done).rootOnTop_iff.mpr ?_
    -- along the operations that are done, the last one first
    induction done using List.reverseRecOn with
    | nil => exact htop
    | append_singleton done op ih =>
        have hbefore := ih ((List.prefix_append done [op]).trans hdone)
        exact (hstep done op hbefore).mpr (h done op hdone)

/-- A new element may get the root as its child: it stands nowhere, and is not above a detached
element. -/
theorem not_rootOnTop_appendChild :
    ¬ ∀ (o : Origin) (ops : List Operation), RootOnTop (o.document.performAll ops).1 := by
  intro h
  have htop := (h .new [.createElement "div", .appendChild 1 root]).noParent
  have hburied : ((Origin.new.document.performAll
      [.createElement "div", .appendChild 1 root]).1).parent? root = some 1 := by
    decide +kernel
  rw [hburied] at htop
  cases htop

end TwinRender.Document
