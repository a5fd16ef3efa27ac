import TwinRender.Hydration.Pass
import TwinRender.Proofs.Document.Mounted

/-!
# What a pass makes of trees

A pass edits a document while it walks it. What it makes of the trees below its root can be said
without a document: a plan is the tree behind a part of a pass, and the effect of that part on
everything else. New nodes get the numbers from a given one on. The plan of a pass follows the walk
node by node; that the walk does what the plan says is shown in a module of its own.

## Main definitions

* `Effect`, `Plan`: what a part of a pass leaves.
* `Plan.node`, `Plan.nodes`: the plans of one node and of neighbouring nodes.
-/

namespace TwinRender

/-- A node as messages show it. -/
def Payload.describe : Payload → String
  | .element tag _ => "<" ++ tag ++ ">"
  | .text s => "text " ++ Text.quoted s
  | .comment _ => "comment"
  | .document => "#document"

/-- A node with a tag is an element. -/
theorem Payload.exists_of_tag? {payload : Payload} {tag : String} (h : payload.tag? = some tag) :
    ∃ attributes, payload = .element tag attributes := by
  cases payload with
  | element tag' attributes =>
      obtain rfl : tag' = tag := Option.some.inj h
      exact ⟨attributes, rfl⟩
  | text s => cases h
  | comment s => cases h
  | document => cases h

namespace Snapshot

/-- The trees that are no comments. -/
def live (ts : List Snapshot) : List Snapshot := ts.filter fun t => !t.payload.isComment

/-- There is nothing but comments. -/
theorem live_eq_nil_iff {ts : List Snapshot} :
    live ts = [] ↔ ∀ t ∈ ts, t.payload.isComment = true := by
  simp [live, List.filter_eq_nil_iff]

/-- A comment before other trees is passed over. -/
theorem live_cons_comment {t : Snapshot} (h : t.payload.isComment = true) (rest : List Snapshot) :
    live (t :: rest) = live rest :=
  List.filter_cons_of_neg (by simp [h])

/-- A tree that is no comment is not passed over. -/
theorem live_cons {t : Snapshot} (h : t.payload.isComment = false) (rest : List Snapshot) :
    live (t :: rest) = t :: live rest :=
  List.filter_cons_of_pos (by simp [h])

/-- Comments before a tree that is none are passed over. -/
theorem live_append_cons {comments : List Snapshot} (hcomments : live comments = [])
    {t : Snapshot} (ht : t.payload.isComment = false) (rest : List Snapshot) :
    live (comments ++ t :: rest) = t :: live rest := by
  rw [← live_cons ht rest, live, List.filter_append]
  exact congrArg (· ++ live (t :: rest)) hcomments

/-- There is nothing but comments, or a first tree that is none. -/
theorem live_split (ts : List Snapshot) :
    live ts = [] ∨ ∃ comments t rest, ts = comments ++ t :: rest ∧ live comments = [] ∧
      t.payload.isComment = false := by
  induction ts with
  | nil => exact Or.inl rfl
  | cons t rest ih =>
      cases ht : t.payload.isComment with
      | false => exact Or.inr ⟨[], t, rest, rfl, rfl, ht⟩
      | true =>
          rcases ih with hnone | ⟨comments, u, others, rfl, hcomments, hu⟩
          · exact Or.inl ((live_cons_comment ht rest).trans hnone)
          · exact Or.inr ⟨t :: comments, u, others, rfl,
              (live_cons_comment ht comments).trans hcomments, hu⟩

end Snapshot

/-! ### Effects -/

/-- What a part of a pass does besides changing trees. -/
structure Effect where
  /-- The records it makes. -/
  records : List Record
  /-- The number of nodes it puts in, takes out or replaces. -/
  replaced : Nat
  /-- The number of values it patches. -/
  patched : Nat
  /-- The number of edits of the document. -/
  edits : Nat
  /-- The number of new nodes. -/
  count : Nat

namespace Effect

/-- Nothing is done. -/
def none : Effect := ⟨[], 0, 0, 0, 0⟩

/-- Records are made and nothing else is done. -/
def ofRecords (records : List Record) : Effect := ⟨records, 0, 0, 0, 0⟩

/-- One part of a pass behind another. -/
def append (a b : Effect) : Effect :=
  ⟨a.records ++ b.records, a.replaced + b.replaced, a.patched + b.patched, a.edits + b.edits,
    a.count + b.count⟩

instance : Append Effect := ⟨append⟩

/-- The records of one part behind another. -/
@[simp] theorem records_append (a b : Effect) : (a ++ b).records = a.records ++ b.records := rfl

/-- The replaced nodes of one part behind another. -/
@[simp] theorem replaced_append (a b : Effect) : (a ++ b).replaced = a.replaced + b.replaced := rfl

/-- The patched values of one part behind another. -/
@[simp] theorem patched_append (a b : Effect) : (a ++ b).patched = a.patched + b.patched := rfl

/-- The edits of one part behind another. -/
@[simp] theorem edits_append (a b : Effect) : (a ++ b).edits = a.edits + b.edits := rfl

/-- The new nodes of one part behind another. -/
@[simp] theorem count_append (a b : Effect) : (a ++ b).count = a.count + b.count := rfl

end Effect

/-! ### Plans -/

/-- What a part of a pass leaves, and its effect. -/
structure Plan (α : Type) where
  /-- What is left. -/
  value : α
  /-- What is done besides. -/
  effect : Effect

namespace Plan

/-- Everything stays as it is. -/
def keep {α : Type} (a : α) : Plan α := ⟨a, .none⟩

/-- A record is made in the end. -/
def note {α : Type} (p : Plan α) (r : Record) : Plan α := ⟨p.value, p.effect ++ .ofRecords [r]⟩

/-- A single tree as a list of trees. -/
def single (p : Plan Snapshot) : Plan (List Snapshot) := ⟨[p.value], p.effect⟩

/-- Trees behind other trees. -/
def append (p q : Plan (List Snapshot)) : Plan (List Snapshot) :=
  ⟨p.value ++ q.value, p.effect ++ q.effect⟩

/-- A new node is put in. -/
def put (next : NodeId) (n : VNode) : Plan Snapshot :=
  ⟨n.mounted next, ⟨[], 1, 0, n.edits + 1, n.count⟩⟩

/-- A node is taken out. -/
def drop : Plan (List Snapshot) := ⟨[], ⟨[], 1, 0, 1, 0⟩⟩

/-- A text gets other content. -/
def rewrite (t : Snapshot) (s : String) : Plan Snapshot :=
  ⟨.node t.id (.text s) t.children, ⟨[], 0, 1, 1, 0⟩⟩

/-- A node is expected where another kind of node is found. -/
def missing (o : HydrationOptions) (subject : String) (path : List Nat) (next : NodeId)
    (t : Snapshot) (n : VNode) : Plan Snapshot :=
  let m : Mismatch := ⟨path, subject, .missing n.display (some t.payload.describe)⟩
  (if o.classify m = .replaceNode then put next n else keep t).note ⟨m, o.classify m⟩

/-- A node is expected where none is found. -/
def absent (o : HydrationOptions) (subject : String) (path : List Nat) (next : NodeId)
    (n : VNode) : Plan (List Snapshot) :=
  let m : Mismatch := ⟨path, subject, .missing n.display none⟩
  (if o.classify m = .replaceNode then (put next n).single else keep []).note ⟨m, o.classify m⟩

/-- A node is found where none is expected. -/
def extra (o : HydrationOptions) (subject : String) (path : List Nat) (t : Snapshot) :
    Plan (List Snapshot) :=
  let m : Mismatch := ⟨path, subject, .extra t.payload.describe⟩
  (if o.classify m = .replaceNode then drop else keep [t]).note ⟨m, o.classify m⟩

/-- Nodes behind the last expected one. -/
def extras (o : HydrationOptions) (subject : String) (path : List Nat) (index : Nat) :
    List Snapshot → Plan (List Snapshot)
  | [] => keep []
  | t :: rest =>
    if t.payload.isComment then (keep [t]).append (extras o subject path index rest)
    else (extra o subject (path ++ [index]) t).append (extras o subject path (index + 1) rest)

/-- A text where a text is expected. -/
def text (o : HydrationOptions) (subject : String) (path : List Nat) (next : NodeId)
    (t : Snapshot) (found expected : String) : Plan Snapshot :=
  if canonicalText found = canonicalText expected then keep t
  else
    let m : Mismatch := ⟨path, subject, .text expected found⟩
    (match o.classify m with
      | .patchValue => rewrite t expected
      | .replaceNode => put next (.text expected)
      | .reportOnly | .ignore => keep t).note ⟨m, o.classify m⟩

/-- The record of an attribute, if it differs. -/
def difference? (o : HydrationOptions) (tag : String) (path : List Nat) (name : String)
    (want live : Option String) : Option Record :=
  if sameAttribute name want live then none
  else
    let m : Mismatch := ⟨path, "<" ++ tag ++ ">", .attribute name want live⟩
    some ⟨m, o.classify m⟩

/-- The records of the attributes in which an element differs from the expected one. -/
def differences (o : HydrationOptions) (tag : String) (path : List Nat)
    (expected found : OrderedMap String) : List Record :=
  (Pass.comparedNames expected found).filterMap fun name =>
    difference? o tag path name (expected.get? name) (found.get? name.toLower)

/-- An attribute gets the value that is expected. -/
def patch (found : OrderedMap String) : Divergence → Plan (OrderedMap String)
  | .attribute name (some value) _ => ⟨found.insert name.toLower value, ⟨[], 0, 1, 1, 0⟩⟩
  | .attribute name none _ =>
    ⟨found.erase name.toLower, ⟨[], 0, 1, if found.contains name.toLower then 1 else 0, 0⟩⟩
  | _ => keep found

/-- Attributes are patched that are to be patched, and all of the differences are recorded. -/
def patches (found : OrderedMap String) : List Record → Plan (OrderedMap String)
  | [] => keep found
  | r :: rest =>
    let first := (if r.action = .patchValue then patch found r.mismatch.divergence
      else keep found).note r
    let others := patches first.value rest
    ⟨others.value, first.effect ++ others.effect⟩

mutual

/-- A tree where a node is expected. -/
def node (o : HydrationOptions) (subject : String) (path : List Nat) (next : NodeId)
    (t : Snapshot) : VNode → Plan Snapshot
  | .element tag attributes children =>
    if t.payload.tag? = some tag then
      let found := t.payload.attributes?.getD .empty
      let records := differences o tag path attributes found
      if records.any fun r => r.action = .replaceNode then
        let new := put next (.element tag attributes children)
        ⟨new.value, .ofRecords records ++ new.effect⟩
      else
        let patched := patches found records
        let below := nodes o ("<" ++ tag ++ ">") path next 0 t.children children
        ⟨.node t.id (.element tag patched.value) below.value, patched.effect ++ below.effect⟩
    else missing o subject path next t (.element tag attributes children)
  | .text s =>
    match t.payload with
    | .text found => text o subject path next t found s
    | _ => missing o subject path next t (.text s)

/-- Trees and expected nodes side by side, from a position on. -/
def nodes (o : HydrationOptions) (subject : String) (path : List Nat) (next : NodeId)
    (index : Nat) (ts : List Snapshot) : List VNode → Plan (List Snapshot)
  | [] => extras o subject path index ts
  | n :: ns =>
    let comments := ts.takeWhile fun t => t.payload.isComment
    match ts.dropWhile fun t => t.payload.isComment with
    | [] =>
      let first := absent o subject (path ++ [index]) next n
      (keep comments).append (first.append
        (nodes o subject path (next + first.effect.count) (index + 1) [] ns))
    | t :: rest =>
      let first := node o subject (path ++ [index]) next t n
      (keep comments).append (first.single.append
        (nodes o subject path (next + first.effect.count) (index + 1) rest ns))

end

section

variable {o : HydrationOptions} {subject : String} {path : List Nat} {next : NodeId}
  {index : Nat} {n : VNode} {ns : List VNode}

/-- The plan where more nodes are expected, and nothing but comments is left. -/
theorem nodes_of_live_eq_nil {ts : List Snapshot} (h : Snapshot.live ts = []) :
    nodes o subject path next index ts (n :: ns) =
      (keep ts).append ((absent o subject (path ++ [index]) next n).append
        (nodes o subject path
          (next + (absent o subject (path ++ [index]) next n).effect.count) (index + 1) []
          ns)) := by
  rw [Snapshot.live_eq_nil_iff] at h
  have hcomments : ts.takeWhile (fun t => t.payload.isComment) = ts := by
    rw [List.takeWhile_eq_self_iff]
    exact h
  have hlive : ts.dropWhile (fun t => t.payload.isComment) = [] := by
    rw [List.dropWhile_eq_nil_iff]
    exact h
  rw [nodes, hcomments, hlive]

/-- The plan where a node is expected and a tree is found that is no comment. -/
theorem nodes_of_live {comments rest : List Snapshot} {t : Snapshot}
    (hcomments : Snapshot.live comments = []) (ht : t.payload.isComment = false) :
    nodes o subject path next index (comments ++ t :: rest) (n :: ns) =
      (keep comments).append ((node o subject (path ++ [index]) next t n).single.append
        (nodes o subject path
          (next + (node o subject (path ++ [index]) next t n).effect.count) (index + 1) rest
          ns)) := by
  rw [Snapshot.live_eq_nil_iff] at hcomments
  have htake : (t :: rest).takeWhile (fun t => t.payload.isComment) = [] := by simp [ht]
  have hdrop : (t :: rest).dropWhile (fun t => t.payload.isComment) = t :: rest := by simp [ht]
  rw [nodes, List.takeWhile_append_of_pos hcomments, List.dropWhile_append_of_pos hcomments,
    htake, hdrop, List.append_nil]

end

section

variable {o : HydrationOptions} {subject : String} {path : List Nat} {next : NodeId}
  {t : Snapshot} {n : VNode}

/-- Comments behind the last expected node stay. -/
theorem extras_eq_keep (ts : List Snapshot) (index : Nat) (h : Snapshot.live ts = []) :
    extras o subject path index ts = keep ts := by
  induction ts with
  | nil => rfl
  | cons t rest ih =>
      rw [Snapshot.live_eq_nil_iff, List.forall_mem_cons] at h
      rw [extras, if_pos h.1, ih (Snapshot.live_eq_nil_iff.mpr h.2)]
      rfl

/-- A text with other content is treated as the options say. -/
theorem text_of_action {found expected : String} {action : RepairAction}
    (hother : canonicalText found ≠ canonicalText expected)
    (haction : o.classify ⟨path, subject, .text expected found⟩ = action) :
    text o subject path next t found expected =
      (match action with
        | .patchValue => rewrite t expected
        | .replaceNode => put next (.text expected)
        | .reportOnly | .ignore => keep t).note
        ⟨⟨path, subject, .text expected found⟩, action⟩ := by
  simp only [text, hother, if_false, haction]

/-- A node of another kind is replaced when nodes are repaired. -/
theorem missing_of_repair (h : o.structuralRepair = true) :
    missing o subject path next t n = (put next n).note
      ⟨⟨path, subject, .missing n.display (some t.payload.describe)⟩, .replaceNode⟩ := by
  simp [missing, HydrationOptions.classify, HydrationOptions.actionFor, h]

/-- A node of another kind is reported when nodes are not repaired. -/
theorem missing_of_report (h : o.structuralRepair = false) :
    missing o subject path next t n = (keep t).note
      ⟨⟨path, subject, .missing n.display (some t.payload.describe)⟩, .reportOnly⟩ := by
  simp [missing, HydrationOptions.classify, HydrationOptions.actionFor, h]

/-- A node that is not there is put in when nodes are repaired. -/
theorem absent_of_repair (h : o.structuralRepair = true) :
    absent o subject path next n = (put next n).single.note
      ⟨⟨path, subject, .missing n.display none⟩, .replaceNode⟩ := by
  simp [absent, HydrationOptions.classify, HydrationOptions.actionFor, h]

/-- A node that is not there is reported when nodes are not repaired. -/
theorem absent_of_report (h : o.structuralRepair = false) :
    absent o subject path next n = (keep []).note
      ⟨⟨path, subject, .missing n.display none⟩, .reportOnly⟩ := by
  simp [absent, HydrationOptions.classify, HydrationOptions.actionFor, h]

/-- A node that is not expected is taken out when nodes are repaired. -/
theorem extra_of_repair (h : o.structuralRepair = true) :
    extra o subject path t = drop.note
      ⟨⟨path, subject, .extra t.payload.describe⟩, .replaceNode⟩ := by
  simp [extra, HydrationOptions.classify, HydrationOptions.actionFor, h]

/-- A node that is not expected is reported when nodes are not repaired. -/
theorem extra_of_report (h : o.structuralRepair = false) :
    extra o subject path t = (keep [t]).note
      ⟨⟨path, subject, .extra t.payload.describe⟩, .reportOnly⟩ := by
  simp [extra, HydrationOptions.classify, HydrationOptions.actionFor, h]

end

/-- Patching one attribute makes no new nodes. -/
theorem count_patch (found : OrderedMap String) (divergence : Divergence) :
    (patch found divergence).effect.count = 0 := by
  rcases divergence with ⟨_, _ | _, _⟩ | _ | _ | _ <;> rfl

/-- Patching attributes makes no new nodes. -/
theorem count_patches (found : OrderedMap String) (records : List Record) :
    (patches found records).effect.count = 0 := by
  induction records generalizing found with
  | nil => rfl
  | cons r rest ih =>
      rw [patches]
      split
      · simp [note, Effect.ofRecords, count_patch, ih]
      · simp [note, keep, Effect.none, Effect.ofRecords, ih]

/-- Patching one attribute makes no record. -/
theorem records_patch (found : OrderedMap String) (divergence : Divergence) :
    (patch found divergence).effect.records = [] := by
  rcases divergence with ⟨_, _ | _, _⟩ | _ | _ | _ <;> rfl

/-- Patching attributes makes the records that say what to patch. -/
theorem records_patches (found : OrderedMap String) (records : List Record) :
    (patches found records).effect.records = records := by
  induction records generalizing found with
  | nil => rfl
  | cons r rest ih =>
      rw [patches, Effect.records_append, ih]
      split
      · simp [note, Effect.ofRecords, records_patch]
      · simp [note, keep, Effect.none, Effect.ofRecords]

/-- Records that are not to be patched leave attributes as they are. -/
theorem patches_of_kept {found : OrderedMap String} {records : List Record}
    (h : ∀ r ∈ records, r.action ≠ .patchValue) :
    patches found records = ⟨found, .ofRecords records⟩ := by
  induction records with
  | nil => rfl
  | cons r rest ih =>
      rw [List.forall_mem_cons] at h
      rw [patches, if_neg h.1]
      simp only [note, keep, ih h.2]
      rfl

section

variable {o : HydrationOptions} {subject : String} {path : List Nat} {next : NodeId}
  {t : Snapshot} {tag : String} {attributes found : OrderedMap String} {children : List VNode}

/-- The plan of an element that is replaced for one of its attributes. -/
theorem node_of_replace (ht : t.payload = .element tag found)
    (h : ∃ r ∈ differences o tag path attributes found, r.action = .replaceNode) :
    node o subject path next t (.element tag attributes children) =
      ⟨(VNode.element tag attributes children).mounted next,
        .ofRecords (differences o tag path attributes found) ++
          (put next (.element tag attributes children)).effect⟩ := by
  have hany : ((differences o tag path attributes found).any
      fun r => decide (r.action = .replaceNode)) = true := by simpa using h
  rw [node, ht, if_pos (show Payload.tag? (.element tag found) = some tag from rfl)]
  simp only [Payload.attributes?, Option.getD_some, hany, if_true]
  rfl

/-- The plan of an element that stays. -/
theorem node_of_patch (ht : t.payload = .element tag found)
    (h : ¬ ∃ r ∈ differences o tag path attributes found, r.action = .replaceNode) :
    node o subject path next t (.element tag attributes children) =
      ⟨.node t.id
          (.element tag (patches found (differences o tag path attributes found)).value)
          (nodes o ("<" ++ tag ++ ">") path next 0 t.children children).value,
        (patches found (differences o tag path attributes found)).effect ++
          (nodes o ("<" ++ tag ++ ">") path next 0 t.children children).effect⟩ := by
  have hany : ((differences o tag path attributes found).any
      fun r => decide (r.action = .replaceNode)) = false := by simpa using h
  rw [node, ht, if_pos (show Payload.tag? (.element tag found) = some tag from rfl)]
  simp only [Payload.attributes?, Option.getD_some, hany, Bool.false_eq_true, if_false]

end

end Plan

end TwinRender
