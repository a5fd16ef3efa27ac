import TwinRender.Proofs.Hydration.Records

/-!
# What becomes of a node

The records of a plan tell what became of every node. The path of a node gives its position, and
those of the nodes above it, among the children that are no comments. A record of a replaced node
is at the path of the node itself or of one above it; a node without such a record is still there,
and differs from what it was in nothing but the values that the records at its own path name.

## Main definitions

* `Snapshot.below?`: the node at a path below a tree.
* `Replaced`, `PatchedAttribute`, `PatchedText`: what records say about the node at a path.
* `KeptBut`: a node is what it was, but for patched values.
* `Fate`: what is left of a node is what the records say.

## Main results

* `Plan.mem_ids_node`, `Plan.mem_listIds_nodes`: **a plan leaves known nodes and new ones**.
* `Plan.fate_node`, `Plan.fate_nodes`: **the records of a plan tell what becomes of every node**.
-/

namespace TwinRender

open Snapshot (live listIds listNodes)

/-! ### Nodes in trees -/

namespace Snapshot

/-- The nodes in some trees are the nodes in each of them. -/
theorem mem_listNodes {ts : List Snapshot} {u : Snapshot} :
    u ∈ listNodes ts ↔ ∃ t ∈ ts, u ∈ t.nodes := by
  induction ts with
  | nil => simp [listNodes]
  | cons t ts ih => simp [listNodes, ih]

/-- More trees have more nodes. -/
theorem listNodes_subset {ts us : List Snapshot} (h : ts ⊆ us) : listNodes ts ⊆ listNodes us := by
  intro v hv
  obtain ⟨t, ht, hvt⟩ := mem_listNodes.mp hv
  exact mem_listNodes.mpr ⟨t, h ht, hvt⟩

/-- The topmost node of a tree is in the tree. -/
theorem self_mem_nodes (t : Snapshot) : t ∈ t.nodes := by
  obtain ⟨id, payload, children⟩ := t
  rw [nodes]
  exact List.mem_cons_self ..

/-- What is in the trees below a node is in the tree of the node. -/
theorem mem_nodes_of_mem_children {t u : Snapshot} (h : u ∈ listNodes t.children) :
    u ∈ t.nodes := by
  obtain ⟨id, payload, children⟩ := t
  rw [nodes]
  exact List.mem_cons_of_mem _ h

/-- The number of a node of some trees is in the trees. -/
theorem id_mem_listIds {ts : List Snapshot} {u : Snapshot} (h : u ∈ listNodes ts) :
    u.id ∈ listIds ts :=
  List.mem_map_of_mem h

/-- The numbers below a node are in the tree of the node. -/
theorem mem_ids_of_mem_children {t : Snapshot} {i : NodeId} (h : i ∈ listIds t.children) :
    i ∈ t.ids := by
  obtain ⟨id, payload, children⟩ := t
  rw [ids_node]
  exact List.mem_cons_of_mem _ h

/-- The numbers in a single tree. -/
theorem listIds_singleton (t : Snapshot) : listIds [t] = t.ids := by
  rw [listIds_cons, listIds_nil, List.append_nil]

/-- The node at a path below a tree. The path gives the positions on the way down, among the nodes
that are no comments. -/
def below? (t : Snapshot) : List Nat → Option Snapshot
  | [] => some t
  | i :: path => ((live t.children)[i]?).bind fun c => c.below? path

/-- The node at a path is in the tree. -/
theorem mem_nodes_of_below? {t u : Snapshot} {path : List Nat} (h : t.below? path = some u) :
    u ∈ t.nodes := by
  induction path generalizing t with
  | nil =>
      obtain rfl : t = u := Option.some.inj h
      exact t.self_mem_nodes
  | cons i path ih =>
      obtain ⟨c, hc, hu⟩ := Option.bind_eq_some_iff.mp h
      have hmem : c ∈ t.children := List.mem_of_mem_filter (List.mem_of_getElem? hc)
      exact mem_nodes_of_mem_children (mem_listNodes.mpr ⟨c, hmem, ih hu⟩)

end Snapshot

/-! ### What records say -/

/-- The node at a path was replaced, or one above it. -/
def Replaced (records : List Record) (path : List Nat) : Prop :=
  ∃ r ∈ records, r.action = .replaceNode ∧ r.mismatch.path <+: path

instance (records : List Record) (path : List Nat) : Decidable (Replaced records path) :=
  inferInstanceAs (Decidable (∃ r ∈ records, r.action = .replaceNode ∧ r.mismatch.path <+: path))

/-- An attribute of the node at a path was patched: it was given a value, or was taken away. -/
def PatchedAttribute (records : List Record) (path : List Nat) (key : String)
    (want : Option String) : Prop :=
  ∃ r ∈ records, r.action = .patchValue ∧ r.mismatch.path = path ∧
    ∃ name found, r.mismatch.divergence = .attribute name want found ∧ name.toLower = key

/-- The names of the attributes of the node at a path that were patched. -/
def patchedNames (records : List Record) (path : List Nat) : List String :=
  (records.filter fun r => r.action = .patchValue && r.mismatch.path = path).filterMap
    fun r => r.mismatch.divergence.name?.map String.toLower

/-- The text at a path was patched. -/
def PatchedText (records : List Record) (path : List Nat) (want : String) : Prop :=
  ∃ r ∈ records, r.action = .patchValue ∧ r.mismatch.path = path ∧
    ∃ found, r.mismatch.divergence = .text want found

/-- A node is what it was, but for the values that were patched. -/
inductive KeptBut (records : List Record) (path : List Nat) : Payload → Payload → Prop where
  /-- An element keeps its tag, every attribute that was not patched, and their order. -/
  | element (tag : String) {before after : OrderedMap String}
      (values : ∀ key, after.get? key = before.get? key ∨
        PatchedAttribute records path key (after.get? key))
      (order : (after.keys.filter fun key => key ∉ patchedNames records path) =
        before.keys.filter fun key => key ∉ patchedNames records path) :
      KeptBut records path (.element tag before) (.element tag after)
  /-- A text stays a text. -/
  | text {before after : String} (value : after = before ∨ PatchedText records path after) :
      KeptBut records path (.text before) (.text after)
  /-- Everything stays the same. -/
  | same (payload : Payload) : KeptBut records path payload payload

/-- More records say more. -/
theorem KeptBut.mono {records more : List Record} {path : List Nat} {before after : Payload}
    (h : KeptBut records path before after) (hsubset : records ⊆ more) :
    KeptBut more path before after := by
  cases h with
  | element tag values order =>
      refine .element tag (fun key => (values key).imp_right ?_) ?_
      · rintro ⟨r, hr, hrest⟩
        exact ⟨r, hsubset hr, hrest⟩
      · have hnames : patchedNames records path ⊆ patchedNames more path := fun key hkey => by
          obtain ⟨r, hr, hname⟩ := List.mem_filterMap.mp hkey
          rw [List.mem_filter] at hr
          exact List.mem_filterMap.mpr ⟨r, List.mem_filter.mpr ⟨hsubset hr.1, hr.2⟩, hname⟩
        -- what is not patched in the end was not patched before
        have hfilter (keys : List String) :
            (keys.filter fun key => key ∉ patchedNames records path).filter
              (fun key => key ∉ patchedNames more path) =
            keys.filter fun key => key ∉ patchedNames more path := by
          rw [List.filter_filter]
          refine List.filter_congr fun key _ => ?_
          rw [← Bool.decide_and, decide_eq_decide, and_iff_left_iff_imp]
          exact fun hnot hkey => hnot (hnames hkey)
        rw [← hfilter, order, hfilter]
  | text value =>
      refine .text (value.imp_right ?_)
      rintro ⟨r, hr, hrest⟩
      exact ⟨r, hsubset hr, hrest⟩
  | same payload => exact .same before

/-- What is left of a node is what the records say: it is gone if it was replaced or one above it
was, and otherwise it is there, but for patched values. -/
structure Fate (records : List Record) (left : List Snapshot) (path : List Nat)
    (u : Snapshot) : Prop where
  /-- A replaced node is gone, and all nodes below it. -/
  gone : Replaced records path → u.id ∉ listIds left
  /-- Every other node is there. -/
  stays : ¬ Replaced records path →
    ∃ v ∈ listNodes left, v.id = u.id ∧ KeptBut records path u.payload v.payload

namespace Fate

variable {records more : List Record} {left whole : List Snapshot} {path : List Nat}
  {u : Snapshot}

/-- What becomes of a node does not depend on the nodes around it. -/
theorem frame (h : Fate records left path u) (hsubset : records ⊆ more)
    (hrecords : ∀ r ∈ more, r.action = .replaceNode → r.mismatch.path <+: path → r ∈ records)
    (hnodes : listNodes left ⊆ listNodes whole)
    (hids : u.id ∈ listIds whole → u.id ∈ listIds left) : Fate more whole path u where
  gone hreplaced hmem := by
    obtain ⟨r, hr, haction, hpath⟩ := hreplaced
    exact h.gone ⟨r, hrecords r hr haction hpath, haction, hpath⟩ (hids hmem)
  stays hnot := by
    obtain ⟨v, hv, hid, hkept⟩ := h.stays fun ⟨r, hr, hrest⟩ => hnot ⟨r, hsubset hr, hrest⟩
    exact ⟨v, hnodes hv, hid, hkept.mono hsubset⟩

/-- A node that was replaced is gone. -/
theorem of_replaced (h : Replaced records path) (hgone : u.id ∉ listIds left) :
    Fate records left path u :=
  ⟨fun _ => hgone, fun hnot => absurd h hnot⟩

/-- A node that was not replaced is there. -/
theorem of_kept {v : Snapshot} (h : ¬ Replaced records path) (hv : v ∈ listNodes left)
    (hid : v.id = u.id) (hkept : KeptBut records path u.payload v.payload) :
    Fate records left path u :=
  ⟨fun hreplaced => absurd hreplaced h, fun _ => ⟨v, hv, hid, hkept⟩⟩

end Fate

/-- The records about another child of a node are not about this one. -/
theorem Record.IsMadeAt.path_apart {o : HydrationOptions} {path rel : List Nat} {i j : Nat}
    {r : Record} (h : r.IsMadeAt o (path ++ [j])) (hne : j ≠ i) :
    ¬ r.mismatch.path <+: path ++ i :: rel := by
  intro hprefix
  have hchild := h.path.trans hprefix
  rw [List.prefix_append_right_inj, List.cons_prefix_cons] at hchild
  exact hne hchild.1

namespace Plan

variable {o : HydrationOptions} {i : NodeId}

/-! ### Known nodes and new ones -/

/-- The numbers of a mounted node are new. -/
theorem le_of_mem_mounted {next : NodeId} {n : VNode} (h : i ∈ (n.mounted next).ids) :
    next ≤ i := by
  rw [VNode.ids_mounted, List.mem_range'_1] at h
  exact h.1

/-- A node that is not expected is left, or nothing. -/
theorem mem_ids_of_mem_extra {subject : String} {path : List Nat} {t : Snapshot}
    (hi : i ∈ listIds (extra o subject path t).value) : i ∈ t.ids := by
  rw [extra, note] at hi
  split at hi
  · cases hi
  · rwa [keep, Snapshot.listIds_singleton] at hi

/-- Nodes behind the last expected one are left, or none. -/
theorem mem_listIds_extras {subject : String} {path : List Nat} {index : Nat}
    {ts : List Snapshot} (hi : i ∈ listIds (extras o subject path index ts).value) :
    i ∈ listIds ts := by
  induction ts generalizing index with
  | nil => exact hi
  | cons t rest ih =>
      rw [extras] at hi
      rw [Snapshot.listIds_cons, List.mem_append]
      split at hi
      · simp only [append, keep, Snapshot.listIds_append, Snapshot.listIds_singleton,
          List.mem_append] at hi
        exact hi.imp_right ih
      · simp only [append, Snapshot.listIds_append, List.mem_append] at hi
        exact hi.imp mem_ids_of_mem_extra ih

mutual

/-- **A plan leaves known nodes and new ones.** -/
theorem mem_ids_node {subject : String} {path : List Nat} {next : NodeId} {t : Snapshot}
    (n : VNode) (hi : i ∈ (node o subject path next t n).value.ids) : i ∈ t.ids ∨ next ≤ i := by
  have hmissing (n : VNode) (hi : i ∈ (missing o subject path next t n).value.ids) :
      i ∈ t.ids ∨ next ≤ i := by
    rw [missing, note] at hi
    split at hi
    · exact Or.inr (le_of_mem_mounted hi)
    · exact Or.inl hi
  cases n with
  | element tag attributes children =>
      by_cases htag : t.payload.tag? = some tag
      · obtain ⟨found, ht⟩ := Payload.exists_of_tag? htag
        by_cases hreplace : ∃ r ∈ differences o tag path attributes found, r.action = .replaceNode
        · rw [node_of_replace ht hreplace] at hi
          exact Or.inr (le_of_mem_mounted hi)
        · rw [node_of_patch ht hreplace, Snapshot.ids_node, List.mem_cons] at hi
          rcases hi with rfl | hi
          · exact Or.inl t.id_mem_ids
          · exact (mem_listIds_nodes children hi).imp_left Snapshot.mem_ids_of_mem_children
      · rw [node, if_neg htag] at hi
        exact hmissing _ hi
  | text s =>
      rw [node] at hi
      cases ht : t.payload with
      | text found =>
          rw [ht] at hi
          simp only [text] at hi
          split at hi
          · exact Or.inl hi
          · rw [note] at hi
            split at hi
            · obtain ⟨id, payload, children⟩ := t
              rw [rewrite, Snapshot.ids_node] at hi
              rw [Snapshot.ids_node]
              exact Or.inl hi
            · exact Or.inr (le_of_mem_mounted hi)
            · exact Or.inl hi
            · exact Or.inl hi
      | element tag found => rw [ht] at hi; exact hmissing _ hi
      | comment found => rw [ht] at hi; exact hmissing _ hi
      | document => rw [ht] at hi; exact hmissing _ hi

/-- **A plan for neighbouring nodes leaves known nodes and new ones.** -/
theorem mem_listIds_nodes {subject : String} {path : List Nat} {next : NodeId} {index : Nat}
    {ts : List Snapshot} (ns : List VNode)
    (hi : i ∈ listIds (nodes o subject path next index ts ns).value) :
    i ∈ listIds ts ∨ next ≤ i := by
  cases ns with
  | nil =>
      rw [nodes] at hi
      exact Or.inl (mem_listIds_extras hi)
  | cons n ns =>
      rcases Snapshot.live_split ts with hnone | ⟨comments, t, rest, rfl, hcomments, ht⟩
      · rw [nodes_of_live_eq_nil hnone] at hi
        simp only [append, keep, Snapshot.listIds_append, List.mem_append] at hi
        rcases hi with hi | hi | hi
        · exact Or.inl hi
        · rw [absent, note] at hi
          split at hi
          · rw [single, Snapshot.listIds_singleton] at hi
            exact Or.inr (le_of_mem_mounted hi)
          · cases hi
        · rcases mem_listIds_nodes ns hi with hi | hi
          · cases hi
          · exact Or.inr (Nat.le_of_add_right_le hi)
      · rw [nodes_of_live hcomments ht] at hi
        simp only [append, keep, single, Snapshot.listIds_append, Snapshot.listIds_singleton,
          List.mem_append] at hi
        rw [Snapshot.listIds_append, Snapshot.listIds_cons, List.mem_append, List.mem_append]
        rcases hi with hi | hi | hi
        · exact Or.inl (Or.inl hi)
        · exact (mem_ids_node n hi).imp_left fun hi => Or.inr (Or.inl hi)
        · exact (mem_listIds_nodes ns hi).imp (fun hi => Or.inr (Or.inr hi))
            Nat.le_of_add_right_le

end

/-! ### Patched attributes -/

/-- A value after one patch is the one before, or the one that is asked for. -/
theorem value_patch (found : OrderedMap String) (divergence : Divergence) (key : String) :
    (patch found divergence).value.get? key = found.get? key ∨
      ∃ name live, divergence = .attribute name ((patch found divergence).value.get? key) live ∧
        name.toLower = key := by
  rcases divergence with ⟨name, want, live⟩ | _ | _ | _
  · cases want with
    | some value =>
        rw [patch, OrderedMap.get?_insert]
        split
        · next hkey => exact Or.inr ⟨name, live, rfl, hkey.symm⟩
        · exact Or.inl rfl
    | none =>
        rw [patch, OrderedMap.get?_erase]
        split
        · next hkey => exact Or.inr ⟨name, live, rfl, hkey.symm⟩
        · exact Or.inl rfl
  all_goals exact Or.inl rfl

/-- A value after patches is the one before, or one that a record asks for. -/
theorem value_patches (found : OrderedMap String) (records : List Record) (key : String) :
    (patches found records).value.get? key = found.get? key ∨
      ∃ r ∈ records, r.action = .patchValue ∧ ∃ name live,
        r.mismatch.divergence = .attribute name ((patches found records).value.get? key) live ∧
          name.toLower = key := by
  induction records generalizing found with
  | nil => exact Or.inl rfl
  | cons r rest ih =>
      simp only [patches, note]
      split
      · next haction =>
        rcases ih (patch found r.mismatch.divergence).value with hsame | ⟨s, hs, hrest⟩
        · rw [hsame]
          refine (value_patch found r.mismatch.divergence key).imp_right ?_
          rintro ⟨name, live, hdivergence, hkey⟩
          exact ⟨r, List.mem_cons_self .., haction, name, live, hdivergence, hkey⟩
        · exact Or.inr ⟨s, List.mem_cons_of_mem _ hs, hrest⟩
      · rcases ih found with hsame | ⟨s, hs, hrest⟩
        · exact Or.inl hsame
        · exact Or.inr ⟨s, List.mem_cons_of_mem _ hs, hrest⟩

/-- Patching one attribute keeps the order of the others. -/
theorem keys_patch {found : OrderedMap String} {divergence : Divergence} {others : String → Bool}
    (h : ∀ name, divergence.name? = some name → others name.toLower = false) :
    (patch found divergence).value.keys.filter others = found.keys.filter others := by
  rcases divergence with ⟨name, want, live⟩ | _ | _ | _
  · have hname := h name rfl
    cases want with
    | some value =>
        rw [patch, OrderedMap.keys_insert]
        split
        · rfl
        · rw [List.filter_append, List.filter_cons_of_neg (by simp [hname]), List.filter_nil,
            List.append_nil]
    | none =>
        rw [patch, OrderedMap.keys_erase, List.filter_filter]
        refine List.filter_congr fun key _ => ?_
        by_cases hkey : key = name.toLower
        · simp [hkey, hname]
        · simp [hkey]
  all_goals rfl

/-- Patching attributes keeps the order of the others. -/
theorem keys_patches {found : OrderedMap String} {records : List Record}
    {others : String → Bool}
    (h : ∀ r ∈ records, r.action = .patchValue → ∀ name,
      r.mismatch.divergence.name? = some name → others name.toLower = false) :
    (patches found records).value.keys.filter others = found.keys.filter others := by
  induction records generalizing found with
  | nil => rfl
  | cons r rest ih =>
      rw [List.forall_mem_cons] at h
      simp only [patches, note]
      split
      · next haction => rw [ih h.2, keys_patch (h.1 haction)]
      · exact ih h.2

/-- **An element whose attributes are patched is what it was, but for what was patched.** -/
theorem keptBut_patches {tag : String} {path : List Nat} {found : OrderedMap String}
    {records : List Record} (hpath : ∀ r ∈ records, r.mismatch.path = path) :
    KeptBut records path (.element tag found) (.element tag (patches found records).value) := by
  refine .element tag (fun key => ?_) (keys_patches fun r hr haction name hname => ?_)
  · refine (value_patches found records key).imp_right ?_
    rintro ⟨r, hr, haction, hrest⟩
    exact ⟨r, hr, haction, hpath r hr, hrest⟩
  · rw [decide_eq_false_iff_not, not_not]
    refine List.mem_filterMap.mpr ⟨r, List.mem_filter.mpr ⟨hr, ?_⟩, ?_⟩
    · simp [haction, hpath r hr]
    · rw [hname, Option.map_some]

/-! ### The fate of every node -/

section

variable {subject : String} {path rel : List Nat} {next : NodeId} {t c u : Snapshot}

/-- What becomes of a node when another kind of node is expected. -/
theorem fate_missing {n : VNode} (hlt : ∀ i ∈ t.ids, i < next) (hu : t.below? rel = some u) :
    Fate (missing o subject path next t n).effect.records
      [(missing o subject path next t n).value] (path ++ rel) u := by
  have hmem := Snapshot.mem_nodes_of_below? hu
  cases hrepair : o.structuralRepair with
  | true =>
      rw [missing_of_repair hrepair]
      refine Fate.of_replaced ⟨_, List.mem_singleton_self _, rfl, List.prefix_append path rel⟩ ?_
      rw [Snapshot.listIds_singleton]
      intro hi
      exact absurd (le_of_mem_mounted hi) (Nat.not_le_of_lt (hlt _ (List.mem_map_of_mem hmem)))
  | false =>
      rw [missing_of_report hrepair]
      refine Fate.of_kept ?_ (Snapshot.mem_listNodes.mpr ⟨t, List.mem_singleton_self t, hmem⟩) rfl
        (.same _)
      rintro ⟨r, hr, haction, -⟩
      obtain rfl := List.mem_singleton.mp hr
      cases haction

/-- What becomes of a text where a text is expected. -/
theorem fate_text {found expected : String} (ht : t.payload = .text found)
    (hlt : ∀ i ∈ t.ids, i < next) (hu : t.below? rel = some u) :
    Fate (text o subject path next t found expected).effect.records
      [(text o subject path next t found expected).value] (path ++ rel) u := by
  have hmem := Snapshot.mem_nodes_of_below? hu
  have hsame : u ∈ listNodes [t] :=
    Snapshot.mem_listNodes.mpr ⟨t, List.mem_singleton_self t, hmem⟩
  -- no node is replaced where a value is patched or nothing is done
  have hnot {records : List Record} (hrecords : ∀ r ∈ records, r.action ≠ .replaceNode) :
      ¬ Replaced records (path ++ rel) := by
    rintro ⟨r, hr, haction, -⟩
    exact hrecords r hr haction
  by_cases hequal : canonicalText found = canonicalText expected
  · rw [show text o subject path next t found expected = keep t from if_pos hequal]
    exact Fate.of_kept (hnot fun r hr => absurd hr List.not_mem_nil) hsame rfl (.same _)
  · cases haction : o.classify ⟨path, subject, .text expected found⟩ with
    | patchValue =>
        rw [text_of_action hequal haction]
        have hrecords : ¬ Replaced
            [⟨⟨path, subject, .text expected found⟩, .patchValue⟩] (path ++ rel) := hnot (by simp)
        cases rel with
        | nil =>
            obtain rfl : t = u := Option.some.inj hu
            refine @Fate.of_kept _ _ _ _ (.node t.id (.text expected) t.children) hrecords
              (Snapshot.mem_listNodes.mpr ⟨_, List.mem_singleton_self _,
                Snapshot.self_mem_nodes _⟩) rfl ?_
            rw [ht, Snapshot.payload]
            exact .text (Or.inr ⟨_, List.mem_singleton_self _, rfl, (List.append_nil path).symm,
              found, rfl⟩)
        | cons j rel =>
            obtain ⟨c, hc, hu⟩ := Option.bind_eq_some_iff.mp hu
            have hchild : c ∈ t.children := List.mem_of_mem_filter (List.mem_of_getElem? hc)
            have hbelow : u ∈ listNodes t.children :=
              Snapshot.mem_listNodes.mpr ⟨c, hchild, Snapshot.mem_nodes_of_below? hu⟩
            refine Fate.of_kept hrecords (Snapshot.mem_listNodes.mpr ⟨_, List.mem_singleton_self _,
              Snapshot.mem_nodes_of_mem_children hbelow⟩) rfl (.same _)
    | replaceNode =>
        rw [text_of_action hequal haction]
        refine Fate.of_replaced ⟨_, List.mem_singleton_self _, rfl, List.prefix_append path rel⟩ ?_
        simp only [note]
        rw [Snapshot.listIds_singleton]
        intro hi
        exact absurd (le_of_mem_mounted hi) (Nat.not_le_of_lt (hlt _ (List.mem_map_of_mem hmem)))
    | reportOnly =>
        rw [text_of_action hequal haction]
        exact Fate.of_kept (hnot (by simp [note, keep, Effect.none, Effect.ofRecords])) hsame rfl
          (.same _)
    | ignore =>
        rw [text_of_action hequal haction]
        exact Fate.of_kept (hnot (by simp [note, keep, Effect.none, Effect.ofRecords])) hsame rfl
          (.same _)

/-- What becomes of a node behind the last expected one. -/
theorem fate_extra {t : Snapshot} (hu : t.below? rel = some u) :
    Fate (extra o subject path t).effect.records (extra o subject path t).value (path ++ rel)
      u := by
  have hmem := Snapshot.mem_nodes_of_below? hu
  cases hrepair : o.structuralRepair with
  | true =>
      rw [extra_of_repair hrepair]
      exact Fate.of_replaced ⟨_, List.mem_singleton_self _, rfl, List.prefix_append path rel⟩
        List.not_mem_nil
  | false =>
      rw [extra_of_report hrepair]
      refine Fate.of_kept ?_ (Snapshot.mem_listNodes.mpr ⟨t, List.mem_singleton_self t, hmem⟩) rfl
        (.same _)
      rintro ⟨r, hr, haction, -⟩
      obtain rfl := List.mem_singleton.mp hr
      cases haction

/-- What becomes of a node behind the last expected one. -/
theorem fate_extras {ts : List Snapshot} {index k : Nat} (hnodup : (listIds ts).Nodup)
    (hc : (live ts)[k]? = some c) (hu : c.below? rel = some u) :
    Fate (extras o subject path index ts).effect.records
      (extras o subject path index ts).value (path ++ (index + k) :: rel) u := by
  induction ts generalizing index k with
  | nil => cases hc
  | cons t rest ih =>
      rw [Snapshot.listIds_cons, List.nodup_append'] at hnodup
      obtain ⟨-, hnodup, hdisjoint⟩ := hnodup
      -- nodes of different trees have different numbers
      have hbehind (hmem : c ∈ live rest) : u.id ∉ t.ids := fun hi =>
        hdisjoint hi (Snapshot.id_mem_listIds (Snapshot.mem_listNodes.mpr
          ⟨c, List.mem_of_mem_filter hmem, Snapshot.mem_nodes_of_below? hu⟩))
      rw [extras]
      cases ht : t.payload.isComment with
      | true =>
          rw [Snapshot.live_cons_comment ht] at hc
          rw [if_pos rfl]
          refine (ih hnodup hc).frame (List.subset_append_right _ _) (fun r hr _ _ => ?_)
            (Snapshot.listNodes_subset (List.subset_append_right _ _)) fun hi => ?_
          · exact (List.mem_append.mp hr).resolve_left List.not_mem_nil
          · rw [append, keep, Snapshot.listIds_append, Snapshot.listIds_singleton,
              List.mem_append] at hi
            exact hi.resolve_left (hbehind (List.mem_of_getElem? hc))
      | false =>
          rw [Snapshot.live_cons ht] at hc
          rw [if_neg Bool.false_ne_true]
          cases k with
          | zero =>
              obtain rfl : t = c := Option.some.inj hc
              have hfirst := @fate_extra o subject (path ++ [index]) rel u t hu
              rw [List.append_assoc, List.singleton_append] at hfirst
              refine hfirst.frame (List.subset_append_left _ _) (fun r hr _ hprefix => ?_)
                (Snapshot.listNodes_subset (List.subset_append_left _ _)) fun hi => ?_
              · refine (List.mem_append.mp hr).resolve_right fun hr => ?_
                obtain ⟨j, hj, hmade⟩ := isMadeAt_of_mem_extras hr
                exact hmade.path_apart (Nat.ne_of_gt hj) hprefix
              · rw [append, Snapshot.listIds_append, List.mem_append] at hi
                refine hi.resolve_right fun hi => hdisjoint ?_ (mem_listIds_extras hi)
                exact List.mem_map_of_mem (Snapshot.mem_nodes_of_below? hu)
          | succ k =>
              have hrest := @ih (index + 1) k hnodup hc
              rw [Nat.add_right_comm, Nat.add_assoc] at hrest
              refine hrest.frame (List.subset_append_right _ _) (fun r hr _ hprefix => ?_)
                (Snapshot.listNodes_subset (List.subset_append_right _ _)) fun hi => ?_
              · refine (List.mem_append.mp hr).resolve_left fun hr => ?_
                have hmade : r.IsMadeAt o (path ++ [index]) :=
                  isMadeAt_of_mem_note (by split <;> rfl) hr
                exact hmade.path_apart (by omega) hprefix
              · rw [append, Snapshot.listIds_append, List.mem_append] at hi
                exact hi.resolve_left fun hi =>
                  hbehind (List.mem_of_getElem? hc) (mem_ids_of_mem_extra hi)

/-- What becomes of an element that stays, and of the nodes below it. -/
theorem fate_patched {tag : String} {found : OrderedMap String} {records : List Record}
    {below : Plan (List Snapshot)} (ht : t.payload = .element tag found) (hnodup : t.ids.Nodup)
    (hu : t.below? rel = some u) (hpath : ∀ r ∈ records, r.mismatch.path = path)
    (hstay : ¬ ∃ r ∈ records, r.action = .replaceNode)
    (hmade : ∀ r ∈ below.effect.records, ∃ j, 0 ≤ j ∧ r.IsMadeAt o (path ++ [j]))
    (hbelow : ∀ {k c rel}, (live t.children)[k]? = some c → c.below? rel = some u →
      Fate below.effect.records below.value (path ++ k :: rel) u) :
    Fate ((patches found records).effect ++ below.effect).records
      [.node t.id (.element tag (patches found records).value) below.value] (path ++ rel) u := by
  rw [Effect.records_append, records_patches]
  cases rel with
  | nil =>
      obtain rfl : t = u := Option.some.inj hu
      refine @Fate.of_kept _ _ _ _
        (.node t.id (.element tag (patches found records).value) below.value) ?_
        (Snapshot.mem_listNodes.mpr ⟨_, List.mem_singleton_self _, Snapshot.self_mem_nodes _⟩)
        rfl ?_
      · rw [List.append_nil]
        rintro ⟨r, hr, haction, hprefix⟩
        rcases List.mem_append.mp hr with hr | hr
        · exact hstay ⟨r, hr, haction⟩
        · obtain ⟨j, -, hmade⟩ := hmade r hr
          have hlength := hmade.path.length_le.trans hprefix.length_le
          rw [List.length_append, List.length_singleton] at hlength
          exact absurd hlength (Nat.not_succ_le_self _)
      · rw [ht, List.append_nil]
        exact (keptBut_patches hpath).mono (List.subset_append_left _ _)
  | cons k rel =>
      obtain ⟨c, hc, hu⟩ := Option.bind_eq_some_iff.mp hu
      have hmem : u ∈ listNodes t.children :=
        Snapshot.mem_listNodes.mpr
          ⟨c, List.mem_of_mem_filter (List.mem_of_getElem? hc), Snapshot.mem_nodes_of_below? hu⟩
      have hne : u.id ≠ t.id := by
        obtain ⟨id, payload, children⟩ := t
        rw [Snapshot.ids_node, List.nodup_cons] at hnodup
        intro heq
        have hin := Snapshot.id_mem_listIds hmem
        rw [heq] at hin
        exact hnodup.1 hin
      refine (hbelow hc hu).frame (List.subset_append_right _ _) (fun r hr haction _ => ?_)
        (fun v hv => ?_) fun hi => ?_
      · exact (List.mem_append.mp hr).resolve_left fun hr => hstay ⟨r, hr, haction⟩
      · exact Snapshot.mem_listNodes.mpr
          ⟨_, List.mem_singleton_self _, Snapshot.mem_nodes_of_mem_children hv⟩
      · rw [Snapshot.listIds_singleton, Snapshot.ids_node, List.mem_cons] at hi
        exact hi.resolve_left hne

end

mutual

/-- **The records of a plan tell what becomes of every node** of a tree. -/
theorem fate_node {subject : String} {path rel : List Nat} {next : NodeId} {t u : Snapshot}
    (n : VNode) (hnodup : t.ids.Nodup) (hlt : ∀ i ∈ t.ids, i < next)
    (hu : t.below? rel = some u) :
    Fate (node o subject path next t n).effect.records [(node o subject path next t n).value]
      (path ++ rel) u := by
  cases n with
  | element tag attributes children =>
      by_cases htag : t.payload.tag? = some tag
      · obtain ⟨found, ht⟩ := Payload.exists_of_tag? htag
        by_cases hreplace : ∃ r ∈ differences o tag path attributes found, r.action = .replaceNode
        · rw [node_of_replace ht hreplace]
          obtain ⟨r, hr, haction⟩ := hreplace
          refine Fate.of_replaced ⟨r, List.mem_append_left _ hr, haction, ?_⟩ ?_
          · rw [(path_of_mem_differences hr).1]
            exact List.prefix_append path rel
          · rw [Snapshot.listIds_singleton]
            intro hi
            exact absurd (le_of_mem_mounted hi)
              (Nat.not_le_of_lt (hlt _ (List.mem_map_of_mem (Snapshot.mem_nodes_of_below? hu))))
        · rw [node_of_patch ht hreplace]
          refine fate_patched ht hnodup hu (fun r hr => (path_of_mem_differences hr).1) hreplace
            (fun r hr => isMadeAt_of_mem_nodes children hr) fun {k c rel} hc hu => ?_
          have hbelow : (listIds t.children).Nodup := by
            obtain ⟨id, payload, below⟩ := t
            rw [Snapshot.ids_node, List.nodup_cons] at hnodup
            exact hnodup.2
          have hfate := @fate_nodes ("<" ++ tag ++ ">") path rel next 0 k t.children c u children
            hbelow (fun i hi => hlt i (Snapshot.mem_ids_of_mem_children hi)) hc hu
          rwa [Nat.zero_add] at hfate
      · rw [node, if_neg htag]
        exact fate_missing hlt hu
  | text s =>
      rw [node]
      cases ht : t.payload with
      | text found => exact fate_text ht hlt hu
      | element tag found => exact fate_missing hlt hu
      | comment found => exact fate_missing hlt hu
      | document => exact fate_missing hlt hu

/-- **The records of a plan tell what becomes of every node** of neighbouring trees. -/
theorem fate_nodes {subject : String} {path rel : List Nat} {next : NodeId} {index k : Nat}
    {ts : List Snapshot} {c u : Snapshot} (ns : List VNode) (hnodup : (listIds ts).Nodup)
    (hlt : ∀ i ∈ listIds ts, i < next) (hc : (live ts)[k]? = some c)
    (hu : c.below? rel = some u) :
    Fate (nodes o subject path next index ts ns).effect.records
      (nodes o subject path next index ts ns).value (path ++ (index + k) :: rel) u := by
  cases ns with
  | nil =>
      rw [nodes]
      exact fate_extras hnodup hc hu
  | cons n ns =>
      rcases Snapshot.live_split ts with hnone | ⟨comments, t, rest, rfl, hcomments, ht⟩
      · rw [hnone] at hc
        cases hc
      rw [Snapshot.live_append_cons hcomments ht] at hc
      rw [nodes_of_live hcomments ht]
      rw [Snapshot.listIds_append, Snapshot.listIds_cons] at hnodup hlt
      simp only [List.nodup_append', List.disjoint_append_right] at hnodup
      simp only [List.mem_append, or_imp, forall_and] at hlt
      obtain ⟨-, ⟨hnodupt, hnodups, hdisjoint⟩, hcomment, hcomment'⟩ := hnodup
      have hmemc := Snapshot.mem_nodes_of_below? hu
      cases k with
      | zero =>
          obtain rfl : t = c := Option.some.inj hc
          have hmem : u.id ∈ t.ids := List.mem_map_of_mem hmemc
          have hfirst := @fate_node subject (path ++ [index]) rel next t u n hnodupt hlt.2.1 hu
          rw [List.append_assoc, List.singleton_append] at hfirst
          refine hfirst.frame (fun r hr => ?_) (fun r hr _ hprefix => ?_)
            (Snapshot.listNodes_subset fun v hv => ?_) fun hi => ?_
          · exact List.mem_append_right _ (List.mem_append_left _ hr)
          · replace hr := (List.mem_append.mp hr).resolve_left List.not_mem_nil
            refine (List.mem_append.mp hr).resolve_right fun hr => ?_
            obtain ⟨j, hj, hmade⟩ := isMadeAt_of_mem_nodes ns hr
            exact hmade.path_apart (Nat.ne_of_gt hj) hprefix
          · exact List.mem_append_right _ (List.mem_append_left _ hv)
          · simp only [append, keep, Snapshot.listIds_append, List.mem_append] at hi
            replace hi := hi.resolve_left fun hi => hcomment hi hmem
            refine hi.resolve_right fun hi => ?_
            rcases mem_listIds_nodes ns hi with hi | hi
            · exact hdisjoint hmem hi
            · exact absurd (Nat.le_of_add_right_le hi) (Nat.not_le_of_lt (hlt.2.1 _ hmem))
      | succ k =>
          have hmemr : u.id ∈ listIds rest := Snapshot.id_mem_listIds (Snapshot.mem_listNodes.mpr
            ⟨c, List.mem_of_mem_filter (List.mem_of_getElem? hc), hmemc⟩)
          have hrest := @fate_nodes subject path rel
            (next + (node o subject (path ++ [index]) next t n).effect.count) (index + 1) k rest c u
            ns hnodups (fun i hi => Nat.lt_add_right _ (hlt.2.2 i hi)) hc hu
          rw [Nat.add_right_comm, Nat.add_assoc] at hrest
          refine hrest.frame (fun r hr => ?_) (fun r hr _ hprefix => ?_)
            (Snapshot.listNodes_subset fun v hv => ?_) fun hi => ?_
          · exact List.mem_append_right _ (List.mem_append_right _ hr)
          · replace hr := (List.mem_append.mp hr).resolve_left List.not_mem_nil
            refine (List.mem_append.mp hr).resolve_left fun hr => ?_
            exact (isMadeAt_of_mem_node n hr).path_apart (by omega) hprefix
          · exact List.mem_append_right _ (List.mem_append_right _ hv)
          · simp only [append, keep, Snapshot.listIds_append, List.mem_append] at hi
            replace hi := hi.resolve_left fun hi => hcomment' hi hmemr
            refine hi.resolve_left fun hi => ?_
            rw [single, Snapshot.listIds_singleton] at hi
            rcases mem_ids_node n hi with hi | hi
            · exact hdisjoint hi hmemr
            · exact absurd hi (Nat.not_le_of_lt (hlt.2.2 _ hmemr))

end

end Plan

end TwinRender
