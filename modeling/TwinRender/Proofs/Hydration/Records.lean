import TwinRender.Proofs.Hydration.Patches

/-!
# The records of a plan

A record says at which node it was made, and what was done about it is what the options say. The
records of a node have the path of the node or a longer one, so nodes next to each other have no
path in common. This decides which records a second pass makes again: those about which nothing was
done, at nodes that were not replaced.

## Main definitions

* `Record.IsMadeAt`: a record is made at a node, or below it.
* `Record.stays`, `survivors`: the records that a second pass makes again.

## Main results

* `Plan.isMadeAt_of_mem_node`, `Plan.isMadeAt_of_mem_nodes`: **every record is made below the node
  that it is about**, and says what the options say.
* `survivors_append`: the records of neighbouring nodes stay or go independently.
-/

namespace TwinRender

/-! ### Records that stay -/

/-- Nothing was done about a mismatch, and no node was replaced where it is. -/
def Record.stays (records : List Record) (r : Record) : Bool :=
  (r.action == .reportOnly || r.action == .ignore) &&
    !records.any fun other =>
      other.action == .replaceNode && other.mismatch.path == r.mismatch.path

/-- The records that a second pass makes again. -/
def survivors (records : List Record) : List Record := records.filter (Record.stays records)

/-- What was done about a mismatch stays done. -/
theorem survivors_eq_nil {records : List Record} (h : ∀ r ∈ records, r.action.mutates = true) :
    survivors records = [] := by
  refine List.filter_eq_nil_iff.mpr fun r hr => ?_
  have haction := h r hr
  rw [Record.stays]
  cases hr : r.action <;> simp_all [RepairAction.mutates]

/-- Nothing stays of the records at a node that was replaced. -/
theorem survivors_of_replaced {records : List Record} {path : List Nat}
    (hpath : ∀ r ∈ records, r.mismatch.path = path)
    (h : ∃ r ∈ records, r.action = .replaceNode) : survivors records = [] := by
  obtain ⟨other, hother, haction⟩ := h
  refine List.filter_eq_nil_iff.mpr fun r hr => ?_
  have hany : (records.any fun other =>
      other.action == .replaceNode && other.mismatch.path == r.mismatch.path) = true := by
    refine List.any_eq_true.mpr ⟨other, hother, ?_⟩
    simp [haction, hpath other hother, hpath r hr]
  simp [Record.stays, hany]

/-- The records at nodes that were not replaced stay, without those of patches. -/
theorem survivors_of_kept {records : List Record} (h : ∀ r ∈ records, r.action ≠ .replaceNode) :
    survivors records = records.filter fun r => decide (r.action ≠ .patchValue) := by
  refine List.filter_congr fun r hr => ?_
  have hnone : (records.any fun other =>
      other.action == .replaceNode && other.mismatch.path == r.mismatch.path) = false := by
    refine List.any_eq_false.mpr fun other hother => ?_
    simp [h other hother]
  have haction := h r hr
  rw [Record.stays, hnone]
  cases hr : r.action <;> simp_all

/-- **The records of neighbours stay or go independently**, when they are at different paths. -/
theorem survivors_append {a b : List Record}
    (h : ∀ r ∈ a, ∀ s ∈ b, r.mismatch.path ≠ s.mismatch.path) :
    survivors (a ++ b) = survivors a ++ survivors b := by
  have hfree {records : List Record} {r : Record}
      (hother : ∀ other ∈ records, other.mismatch.path ≠ r.mismatch.path) :
      (records.any fun other =>
        other.action == .replaceNode && other.mismatch.path == r.mismatch.path) = false :=
    List.any_eq_false.mpr fun other hmem => by simp [hother other hmem]
  rw [survivors, List.filter_append]
  congr 1
  · refine List.filter_congr fun r hr => ?_
    rw [Record.stays, List.any_append, hfree fun other hother => (h r hr other hother).symm,
      Bool.or_false, Record.stays]
  · refine List.filter_congr fun r hr => ?_
    rw [Record.stays, List.any_append, hfree fun other hother => h other hother r hr,
      Bool.false_or, Record.stays]

/-! ### Records at nodes -/

/-- A differing attribute is no difference between nodes. -/
theorem Divergence.isStructural_attribute (name : String) (expected found : Option String) :
    (Divergence.attribute name expected found).kind.isStructural = false := by
  rw [kind]
  split <;> rfl

/-- Only missing nodes and nodes too many are differences between nodes. -/
theorem Divergence.isStructural_iff {divergence : Divergence} :
    divergence.kind.isStructural = true ↔
      (∃ expected found, divergence = .missing expected found) ∨
        ∃ found, divergence = .extra found := by
  rcases divergence with ⟨name, expected, found⟩ | ⟨expected, found⟩ | ⟨expected, found⟩ | found
  · simp [isStructural_attribute]
  · simp [kind, MismatchKind.isStructural]
  · simp [kind, MismatchKind.isStructural]
  · simp [kind, MismatchKind.isStructural]

/-- Paths below two children of a node are different. -/
theorem path_ne_of_prefix {path a b : List Nat} {i j : Nat} (ha : path ++ [i] <+: a)
    (hb : path ++ [j] <+: b) (hne : i ≠ j) : a ≠ b := by
  obtain ⟨rest, rfl⟩ := ha
  obtain ⟨others, rfl⟩ := hb
  intro heq
  rw [List.append_assoc, List.append_assoc, List.append_cancel_left_eq] at heq
  exact hne (List.cons.inj heq).1

/-- A record is made at a node or below it, and says what the options say. -/
structure Record.IsMadeAt (o : HydrationOptions) (path : List Nat) (r : Record) : Prop where
  /-- The path of the node begins the path of the record. -/
  path : path <+: r.mismatch.path
  /-- The options say what is done. -/
  action : r.action = o.classify r.mismatch

namespace Record.IsMadeAt

variable {o : HydrationOptions} {path : List Nat} {r s : Record}

/-- A record that is made at a node itself. -/
theorem self (o : HydrationOptions) (m : Mismatch) : IsMadeAt o m.path ⟨m, o.classify m⟩ :=
  ⟨List.prefix_refl _, rfl⟩

/-- What is made below a child is made below its parent. -/
theorem above {index : Nat} (h : IsMadeAt o (path ++ [index]) r) : IsMadeAt o path r :=
  ⟨(List.prefix_append path [index]).trans h.path, h.action⟩

/-- The records below a child of a node are not at the node. -/
theorem path_ne_above {index : Nat} (hs : IsMadeAt o (path ++ [index]) s) :
    path ≠ s.mismatch.path := by
  intro heq
  have hlength := hs.path.length_le
  rw [← heq, List.length_append, List.length_singleton] at hlength
  exact absurd hlength (Nat.not_succ_le_self _)

end Record.IsMadeAt

namespace Plan

open Record (IsMadeAt)

variable {o : HydrationOptions} {r : Record}

/-- A note is made where it says, when nothing but notes is made. -/
theorem isMadeAt_of_mem_note {α : Type} {p : Plan α} {m : Mismatch}
    (hp : p.effect.records = []) (hr : r ∈ (p.note ⟨m, o.classify m⟩).effect.records) :
    IsMadeAt o m.path r := by
  rw [note, Effect.records_append, hp, List.nil_append] at hr
  obtain rfl := List.mem_singleton.mp hr
  exact IsMadeAt.self o m

/-- A note about a node that is repaired or kept is made where it says. -/
theorem isMadeAt_of_mem_repair {α : Type} {p : Plan α} {a : α} {m : Mismatch}
    (hp : p.effect.records = [])
    (hr : r ∈ ((if o.classify m = .replaceNode then p else keep a).note
      ⟨m, o.classify m⟩).effect.records) : IsMadeAt o m.path r := by
  refine isMadeAt_of_mem_note ?_ hr
  split
  · exact hp
  · rfl

/-- The records of an element are about its attributes. -/
theorem exists_of_mem_differences {tag : String} {path : List Nat}
    {expected found : OrderedMap String} (hr : r ∈ differences o tag path expected found) :
    ∃ name want live, r.mismatch = ⟨path, "<" ++ tag ++ ">", .attribute name want live⟩ ∧
      r.action = o.classify r.mismatch := by
  obtain ⟨name, -, hsome⟩ := List.mem_filterMap.mp hr
  obtain ⟨-, rfl⟩ := difference?_eq_some_iff.mp hsome
  exact ⟨name, _, _, rfl, rfl⟩

/-- The record of an attribute is made at its element. -/
theorem path_of_mem_differences {tag : String} {path : List Nat}
    {expected found : OrderedMap String} (hr : r ∈ differences o tag path expected found) :
    r.mismatch.path = path ∧ r.action = o.classify r.mismatch := by
  obtain ⟨_, _, _, hmismatch, haction⟩ := exists_of_mem_differences hr
  exact ⟨congrArg Mismatch.path hmismatch, haction⟩

/-- Each record about nodes behind the last expected one is made at one of them. -/
theorem isMadeAt_of_mem_extras {subject : String} {path : List Nat} {index : Nat}
    {ts : List Snapshot} (hr : r ∈ (extras o subject path index ts).effect.records) :
    ∃ j, index ≤ j ∧ IsMadeAt o (path ++ [j]) r := by
  induction ts generalizing index with
  | nil => cases hr
  | cons t rest ih =>
      rw [extras] at hr
      split at hr
      · exact ih ((List.mem_append.mp hr).resolve_left List.not_mem_nil)
      · rcases List.mem_append.mp hr with hr | hr
        · exact ⟨index, le_refl _, isMadeAt_of_mem_repair rfl hr⟩
        · obtain ⟨j, hj, hmade⟩ := ih hr
          exact ⟨j, Nat.le_of_succ_le hj, hmade⟩

mutual

/-- **Every record about a node is made there or below**, and says what the options say. -/
theorem isMadeAt_of_mem_node {subject : String} {path : List Nat} {next : NodeId} {t : Snapshot}
    (n : VNode) (hr : r ∈ (node o subject path next t n).effect.records) :
    IsMadeAt o path r := by
  have hmissing (n : VNode) (hr : r ∈ (missing o subject path next t n).effect.records) :
      IsMadeAt o path r := isMadeAt_of_mem_repair rfl hr
  cases n with
  | element tag attributes children =>
      by_cases htag : t.payload.tag? = some tag
      · obtain ⟨found, ht⟩ := Payload.exists_of_tag? htag
        have hattribute (hr : r ∈ differences o tag path attributes found) :
            IsMadeAt o path r := by
          obtain ⟨hpath, haction⟩ := path_of_mem_differences hr
          exact ⟨by rw [hpath], haction⟩
        by_cases hreplace : ∃ r ∈ differences o tag path attributes found, r.action = .replaceNode
        · rw [node_of_replace ht hreplace, Effect.records_append] at hr
          exact hattribute ((List.mem_append.mp hr).resolve_right List.not_mem_nil)
        · rw [node_of_patch ht hreplace, Effect.records_append, records_patches] at hr
          rcases List.mem_append.mp hr with hr | hr
          · exact hattribute hr
          · obtain ⟨j, -, hmade⟩ := isMadeAt_of_mem_nodes children hr
            exact hmade.above
      · rw [node, if_neg htag] at hr
        exact hmissing _ hr
  | text s =>
      rw [node] at hr
      cases ht : t.payload with
      | text found =>
          rw [ht] at hr
          simp only [text] at hr
          split at hr
          · cases hr
          · refine isMadeAt_of_mem_note ?_ hr
            split <;> rfl
      | element tag found => rw [ht] at hr; exact hmissing _ hr
      | comment found => rw [ht] at hr; exact hmissing _ hr
      | document => rw [ht] at hr; exact hmissing _ hr

/-- **Every record about neighbouring nodes is made at one of them or below**, and says what the
options say. -/
theorem isMadeAt_of_mem_nodes {subject : String} {path : List Nat} {next : NodeId} {index : Nat}
    {ts : List Snapshot} (ns : List VNode)
    (hr : r ∈ (nodes o subject path next index ts ns).effect.records) :
    ∃ j, index ≤ j ∧ IsMadeAt o (path ++ [j]) r := by
  cases ns with
  | nil =>
      rw [nodes] at hr
      exact isMadeAt_of_mem_extras hr
  | cons n ns =>
      rcases Snapshot.live_split ts with hnone | ⟨comments, t, rest, rfl, hcomments, ht⟩
      · rw [nodes_of_live_eq_nil hnone] at hr
        replace hr := (List.mem_append.mp hr).resolve_left List.not_mem_nil
        rcases List.mem_append.mp hr with hr | hr
        · exact ⟨index, le_refl _, isMadeAt_of_mem_repair rfl hr⟩
        · obtain ⟨j, hj, hmade⟩ := isMadeAt_of_mem_nodes ns hr
          exact ⟨j, Nat.le_of_succ_le hj, hmade⟩
      · rw [nodes_of_live hcomments ht] at hr
        replace hr := (List.mem_append.mp hr).resolve_left List.not_mem_nil
        rcases List.mem_append.mp hr with hr | hr
        · exact ⟨index, le_refl _, isMadeAt_of_mem_node n hr⟩
        · obtain ⟨j, hj, hmade⟩ := isMadeAt_of_mem_nodes ns hr
          exact ⟨j, Nat.le_of_succ_le hj, hmade⟩

end

end Plan

end TwinRender
