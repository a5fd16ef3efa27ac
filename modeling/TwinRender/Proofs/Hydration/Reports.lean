import TwinRender.Proofs.Hydration.Records
import TwinRender.Proofs.Hydration.Whole

/-!
# The order of a report

The records of a report stand in the order of the document, those of a node before those of the
nodes below it. A place has more than one record only if they are about different attributes of the
element there, and nothing below a node is recorded when the node was missing, not expected or
replaced. The messages of a report are those of its records, in the same order.

## Main definitions

* `Record.IsFinal`: nothing below the node of a record is looked at.
* `Record.Precedes`, `Record.InOrder`: a record can stand before another one; records are in order.
* `Report.IsConsistent`: the messages of a report are what its records say.

## Main results

* `Plan.node_precedes`, `Plan.nodes_precede`: **the records of a plan precede one another**.
* `Diagnostics.reportAll_eq`: the messages after some records.
* `hydrateNodes_inOrder`: **the records of a report are in order**, and its messages are theirs.
-/

namespace TwinRender

/-! ### Records in order -/

/-- What is above a node is not behind it in the document. -/
theorem path_le_of_below {path other : List Nat} (h : path <+: other) : path ≤ other := by
  obtain ⟨rest, rfl⟩ := h
  exact not_lt.mp (@List.le_append_left Nat _ _ path rest)

/-- Nothing below the node of a record is looked at: the node is missing or not expected, or it was
replaced. -/
def Record.IsFinal (r : Record) : Prop :=
  r.mismatch.kind.isStructural = true ∨ r.action = .replaceNode

/-- A record can stand before another one. -/
inductive Record.Precedes (r s : Record) : Prop where
  /-- It is earlier in the document, and the other one is not below a node that is not looked
  into. -/
  | earlier (place : r.mismatch.path < s.mismatch.path)
      (apart : r.IsFinal → ¬ r.mismatch.path <+: s.mismatch.path)
  /-- They are about different attributes of one element. -/
  | besides (place : r.mismatch.path = s.mismatch.path)
      (subject : r.mismatch.subject = s.mismatch.subject)
      (names : ∃ name other, r.mismatch.divergence.name? = some name ∧
        s.mismatch.divergence.name? = some other ∧ name ≠ other)

namespace Record.Precedes

variable {r s : Record} {path : List Nat}

/-- Records do not go back in the document. -/
theorem path_le (h : r.Precedes s) : r.mismatch.path ≤ s.mismatch.path := by
  cases h with
  | earlier place _ => exact le_of_lt place
  | besides place _ _ => exact le_of_eq place

/-- What stands behind a final record is not below its node. -/
theorem eq_of_below (h : r.Precedes s) (hfinal : r.IsFinal)
    (hbelow : r.mismatch.path <+: s.mismatch.path) : r.mismatch.path = s.mismatch.path := by
  cases h with
  | earlier _ apart => exact absurd hbelow (apart hfinal)
  | besides place _ _ => exact place

/-- What stands behind another record is not above its node. -/
theorem eq_of_above (h : r.Precedes s) (hbelow : s.mismatch.path <+: r.mismatch.path) :
    s.mismatch.path = r.mismatch.path :=
  le_antisymm (path_le_of_below hbelow) h.path_le

/-- **Nothing is below the node of a final record**, before or behind it. -/
theorem eq_of_below_of_mem {records : List Record} (h : records.Pairwise Precedes)
    (hr : r ∈ records) (hs : s ∈ records) (hfinal : r.IsFinal)
    (hbelow : r.mismatch.path <+: s.mismatch.path) : r.mismatch.path = s.mismatch.path := by
  let Apart (r s : Record) : Prop :=
    r.IsFinal → r.mismatch.path <+: s.mismatch.path → r.mismatch.path = s.mismatch.path
  have hsymm : Std.Symm fun r s => Apart r s ∧ Apart s r := ⟨fun _ _ h => h.symm⟩
  have hapart : records.Pairwise fun r s => Apart r s ∧ Apart s r :=
    h.imp fun hrs => ⟨hrs.eq_of_below, fun _ => hrs.eq_of_above⟩
  exact (hapart.forall_of_forall (fun _ _ => ⟨fun _ _ => rfl, fun _ _ => rfl⟩) hr hs).1 hfinal
    hbelow

/-- What is made at a node precedes what is made at a later neighbour. -/
theorem of_neighbours {i j : Nat} (hr : path ++ [i] <+: r.mismatch.path)
    (hs : path ++ [j] <+: s.mismatch.path) (hlt : i < j) : r.Precedes s := by
  refine earlier ?_ fun _ hbelow => ?_
  · obtain ⟨rest, hrest⟩ := hr
    obtain ⟨others, hothers⟩ := hs
    rw [← hrest, ← hothers, List.append_assoc, List.append_assoc]
    exact List.append_left_lt (List.cons_lt_cons_iff.mpr (Or.inl hlt))
  · -- two paths of the same length that begin a third one are the same
    have hboth := List.prefix_of_prefix_length_le (hr.trans hbelow) hs (by simp)
    have heq := hboth.eq_of_length (by simp)
    rw [List.append_cancel_left_eq] at heq
    exact absurd (List.cons.inj heq).1 (Nat.ne_of_lt hlt)

/-- What is made at a node precedes what is made below it, if the node is looked into. -/
theorem of_above {j : Nat} (hr : r.mismatch.path = path) (hlook : ¬ r.IsFinal)
    (hs : path ++ [j] <+: s.mismatch.path) : r.Precedes s := by
  refine earlier ?_ fun hfinal => absurd hfinal hlook
  rw [hr]
  refine lt_of_le_of_ne (path_le_of_below ((List.prefix_append path [j]).trans hs)) ?_
  rintro rfl
  exact absurd hs.length_le (by simp)

end Record.Precedes

/-! ### Plans -/

namespace Plan

open Record (Precedes)

variable {o : HydrationOptions} {subject : String} {path : List Nat} {next : NodeId}

/-- No attribute is compared twice. -/
theorem nodup_comparedNames (expected found : OrderedMap String) :
    (Pass.comparedNames expected found).Nodup := by
  rw [Pass.comparedNames, List.nodup_append]
  refine ⟨expected.nodup, found.nodup.filter _, fun name hname other hother => ?_⟩
  rintro rfl
  have hcontains := OrderedMap.mem_keys_iff.mp hname
  have hnot := (List.mem_filter.mp hother).2
  rw [hcontains] at hnot
  cases hnot

/-- The records of an element are about different attributes. -/
theorem differences_precede (tag : String) (path : List Nat) (expected found : OrderedMap String) :
    (differences o tag path expected found).Pairwise Precedes := by
  refine List.Pairwise.filterMap _ ?_ (nodup_comparedNames expected found)
  intro name other hne r hr s hs
  obtain ⟨-, rfl⟩ := difference?_eq_some_iff.mp hr
  obtain ⟨-, rfl⟩ := difference?_eq_some_iff.mp hs
  exact .besides rfl rfl ⟨name, other, rfl, rfl, hne⟩

/-- An element is looked into unless one of its attributes has it replaced. -/
theorem not_isFinal_of_mem_differences {tag : String} {expected found : OrderedMap String}
    {r : Record} (hr : r ∈ differences o tag path expected found)
    (haction : r.action ≠ .replaceNode) : ¬ r.IsFinal := by
  obtain ⟨name, want, live, hmismatch, -⟩ := exists_of_mem_differences hr
  rintro (hstructural | hreplace)
  · rw [hmismatch, Mismatch.kind, Divergence.isStructural_attribute] at hstructural
    cases hstructural
  · exact haction hreplace

/-- A single note precedes nothing. -/
theorem note_precedes {α : Type} {p : Plan α} {r : Record} (hp : p.effect.records = []) :
    (p.note r).effect.records.Pairwise Precedes := by
  rw [note, Effect.records_append, hp]
  exact List.pairwise_singleton _ r

/-- The one note about a node that is repaired or kept precedes nothing. -/
theorem repair_precedes {α : Type} {p : Plan α} {a : α} {m : Mismatch}
    (hp : p.effect.records = []) :
    ((if o.classify m = .replaceNode then p else keep a).note
      ⟨m, o.classify m⟩).effect.records.Pairwise Precedes := by
  refine note_precedes ?_
  split
  · exact hp
  · rfl

/-- The records about nodes behind the last expected one precede one another. -/
theorem extras_precede (ts : List Snapshot) (index : Nat) :
    (extras o subject path index ts).effect.records.Pairwise Precedes := by
  induction ts generalizing index with
  | nil => exact List.Pairwise.nil
  | cons t rest ih =>
      rw [extras]
      split
      · exact ih index
      · refine List.pairwise_append.mpr ⟨repair_precedes rfl, ih (index + 1), fun r hr s hs => ?_⟩
        obtain ⟨j, hj, hmade⟩ := isMadeAt_of_mem_extras hs
        exact .of_neighbours (isMadeAt_of_mem_repair rfl hr).path hmade.path hj

/-- The one record about a text precedes nothing. -/
theorem text_precedes {t : Snapshot} (found expected : String) :
    (text o subject path next t found expected).effect.records.Pairwise Precedes := by
  rw [text]
  split
  · exact List.Pairwise.nil
  · refine note_precedes ?_
    split <;> rfl

/-- What is made at a node precedes what is made at its later neighbours. -/
theorem precedes_of_mem_nodes {index : Nat} {ts : List Snapshot} {ns : List VNode} {r s : Record}
    (hr : path ++ [index] <+: r.mismatch.path)
    (hs : s ∈ (nodes o subject path next (index + 1) ts ns).effect.records) : r.Precedes s := by
  obtain ⟨j, hj, hmade⟩ := isMadeAt_of_mem_nodes ns hs
  exact .of_neighbours hr hmade.path hj

/-- Kept trees before others leave no record. -/
theorem records_keep_append (ts : List Snapshot) (p : Plan (List Snapshot)) :
    ((keep ts).append p).effect.records = p.effect.records := rfl

mutual

/-- **The records about a node precede one another.** -/
theorem node_precedes {subject : String} {path : List Nat} {next : NodeId} {t : Snapshot}
    (n : VNode) : (node o subject path next t n).effect.records.Pairwise Precedes := by
  cases n with
  | element tag attributes children =>
      by_cases htag : t.payload.tag? = some tag
      · obtain ⟨found, ht⟩ := Payload.exists_of_tag? htag
        by_cases hreplace : ∃ r ∈ differences o tag path attributes found, r.action = .replaceNode
        · rw [node_of_replace ht hreplace, Effect.records_append, put, List.append_nil]
          exact differences_precede tag path attributes found
        · rw [node_of_patch ht hreplace, Effect.records_append, records_patches]
          refine List.pairwise_append.mpr ⟨differences_precede tag path attributes found,
            nodes_precede children, fun r hr s hs => ?_⟩
          obtain ⟨j, -, hmade⟩ := isMadeAt_of_mem_nodes children hs
          have hlook := not_isFinal_of_mem_differences hr fun haction => hreplace ⟨r, hr, haction⟩
          exact .of_above (path_of_mem_differences hr).1 hlook hmade.path
      · rw [node, if_neg htag]
        exact repair_precedes rfl
  | text s =>
      rw [node]
      cases t.payload with
      | text found => exact text_precedes found s
      | element tag found => exact repair_precedes rfl
      | comment found => exact repair_precedes rfl
      | document => exact repair_precedes rfl

/-- **The records about neighbouring nodes precede one another.** -/
theorem nodes_precede {subject : String} {path : List Nat} {next : NodeId} {index : Nat}
    {ts : List Snapshot} (ns : List VNode) :
    (nodes o subject path next index ts ns).effect.records.Pairwise Precedes := by
  cases ns with
  | nil =>
      rw [nodes]
      exact extras_precede ts index
  | cons n ns =>
      rcases Snapshot.live_split ts with hnone | ⟨comments, t, rest, rfl, hcomments, ht⟩
      · rw [nodes_of_live_eq_nil hnone, records_keep_append]
        refine List.pairwise_append.mpr ⟨repair_precedes rfl, nodes_precede ns, fun r hr s hs => ?_⟩
        exact precedes_of_mem_nodes (isMadeAt_of_mem_repair rfl hr).path hs
      · rw [nodes_of_live hcomments ht, records_keep_append]
        refine List.pairwise_append.mpr ⟨node_precedes n, nodes_precede ns, fun r hr s hs => ?_⟩
        exact precedes_of_mem_nodes (isMadeAt_of_mem_node n hr).path hs

end

end Plan

/-! ### Messages -/

namespace Diagnostics

/-- **Every record that is reported leaves its message**, in order. -/
theorem reportAll_eq (ds : Diagnostics) (records : List Record) :
    ds.reportAll records = { ds with
      entries := ds.entries ++ (records.filter fun r => r.action.isReported).map
        fun r => Diagnostic.ofMismatch r.mismatch } := by
  induction records generalizing ds with
  | nil => simp [reportAll]
  | cons r rest ih =>
      have hstep : ds.reportAll (r :: rest) =
          (if r.action.isReported then ds.report r.mismatch else ds).reportAll rest := rfl
      rw [hstep, ih]
      by_cases hreported : r.action.isReported = true
      · simp [hreported, report, push]
      · simp [hreported]

/-- A pass ends with one more message if there are any. -/
theorem finish_eq (entries : List Diagnostic) :
    finish ⟨entries, false⟩ =
      ⟨entries ++ if entries = [] then [] else [Diagnostic.completed], true⟩ := by
  cases entries with
  | nil => rfl
  | cons entry rest => simp [finish, push]

end Diagnostics

/-- How serious a mismatch is: nodes that differ are errors, values that differ are warnings. -/
def Mismatch.level (m : Mismatch) : Level := if m.kind.isStructural then .error else .warn

/-- The message for a mismatch is as serious as the mismatch. -/
theorem Diagnostic.level_ofMismatch (m : Mismatch) : (ofMismatch m).level = m.level := by
  obtain ⟨path, subject, divergence⟩ := m
  rcases divergence with ⟨name, expected, found⟩ | ⟨expected, found⟩ | ⟨expected, found⟩ | found
  · rw [Mismatch.level, Mismatch.kind, Divergence.isStructural_attribute]
    rfl
  · rfl
  · rfl
  · rfl

/-! ### Whole passes -/

/-- Records are in order. -/
structure Record.InOrder (records : List Record) : Prop where
  /-- They follow the document, nodes before what is below them. -/
  ordered : (records.map fun r => r.mismatch.path).Pairwise (· ≤ ·)
  /-- Those at the same place are about different attributes of one element. -/
  shared : records.Pairwise fun r s => r.mismatch.path = s.mismatch.path →
    r.mismatch.subject = s.mismatch.subject ∧
      ∃ name other, r.mismatch.divergence.name? = some name ∧
        s.mismatch.divergence.name? = some other ∧ name ≠ other
  /-- None is below a node that is not looked into. -/
  pruned : ∀ r ∈ records, ∀ s ∈ records, r.IsFinal →
    r.mismatch.path <+: s.mismatch.path → r.mismatch.path = s.mismatch.path

/-- Records that precede one another are in order. -/
theorem Record.InOrder.of_precedes {records : List Record}
    (h : records.Pairwise Record.Precedes) : Record.InOrder records where
  ordered := List.pairwise_map.mpr (h.imp Precedes.path_le)
  shared := h.imp fun hrs hsame => by
    cases hrs with
    | earlier place _ => exact absurd hsame (ne_of_lt place)
    | besides _ subject names => exact ⟨subject, names⟩
  pruned _ hr _ hs hfinal hbelow := Precedes.eq_of_below_of_mem h hr hs hfinal hbelow

/-- The messages of a report and the way it ended are what its records say. -/
structure Report.IsConsistent (r : Report) : Prop where
  /-- Every record that is reported has its message, as serious as its mismatch, and one more
  warning ends the messages if there are any. -/
  entries : r.diagnostics.entries =
    (r.reported.map fun s => ⟨s.mismatch.level, (Diagnostic.ofMismatch s.mismatch).message⟩) ++
      if r.reported = [] then [] else [⟨.warn, Diagnostic.completed.message⟩]
  /-- It ended with mismatches if something was reported. -/
  mismatches : r.state = .finishedWithMismatches ↔ r.reported ≠ []
  /-- It ended clean if nothing was reported. -/
  clean : r.state = .cleanFinish ↔ r.reported = []

/-- The report of a pass is consistent when its messages are those of its records. -/
theorem Pass.report_isConsistent {p : Pass}
    (h : p.diagnostics = Diagnostics.empty.reportAll p.records) : p.report.IsConsistent := by
  have hreported : p.report.reported = p.records.filter fun r => r.action.isReported := rfl
  have hnone : (p.records.any fun r => r.action.isReported) = false ↔ p.report.reported = [] := by
    rw [hreported, List.filter_eq_nil_iff, List.any_eq_false]
  have hdiagnostics : p.report.diagnostics = p.diagnostics.finish := rfl
  have hstate : p.report.state = if (p.records.any fun r => r.action.isReported) = true
      then .finishedWithMismatches else .cleanFinish := rfl
  constructor
  · rw [hdiagnostics, h, Diagnostics.reportAll_eq, ← hreported, Diagnostics.empty, List.nil_append,
      Diagnostics.finish_eq]
    simp only [List.map_eq_nil_iff, ← Diagnostic.level_ofMismatch]
    rfl
  · rw [ne_eq, ← hnone, hstate]
    split <;> simp_all
  · rw [← hnone, hstate]
    split <;> simp_all

section

variable {d : Document} {root : NodeId}

/-- **The records of a report are in order, and its messages are theirs.** -/
theorem hydrateNodes_inOrder (o : HydrationOptions) (hd : d.Reachable) (hroot : d.IsRoot root)
    (expected : List VNode) :
    ∃ d' r, hydrateNodes o d root expected = .ok (d', r) ∧ Record.InOrder r.records ∧
      r.IsConsistent := by
  obtain ⟨payload, above, ts, hcontainer, hhas⟩ := hroot.exists_has hd.sound
  obtain ⟨p, hrun, hdid, -⟩ := hydrateNodes_carries o hd hroot hcontainer hhas expected
  have hrecords := hdid.records
  rw [Pass.start, List.nil_append] at hrecords
  refine ⟨p.document, p.report, hrun, ?_, Pass.report_isConsistent ?_⟩
  · rw [Pass.report, hrecords]
    exact .of_precedes (Plan.nodes_precede expected)
  · rw [hdid.diagnostics, hrecords]
    rfl

/-- The standard options, with titles not looked at. -/
def HydrationOptions.ignoringTitles : HydrationOptions :=
  HydrationOptions.standard.withIgnored "title"

/-- In a parsed fragment two attributes and the text of a paragraph differ, and another element is
not expected: one message less than there are records, as one of the attributes is ignored, and one
more at the end. -/
theorem hydrateNodes_inOrder_parsed :
    (Document.parse "<p class=a title=t>old</p><i></i>").IsRoot Document.root ∧
      ∃ d' r, hydrateNodes .ignoringTitles (.parse "<p class=a title=t>old</p><i></i>")
          Document.root [.element "p" (.ofList [("class", "b")]) [.text "new"]] = .ok (d', r) ∧
        r.records.map (fun s => (s.mismatch.path, s.action)) =
          [([0], .patchValue), ([0], .ignore), ([0, 0], .patchValue), ([1], .replaceNode)] ∧
        r.diagnostics.entries.map Diagnostic.level = [.warn, .warn, .error, .warn] ∧
        Record.InOrder r.records := by
  have hroot : (Document.parse "<p class=a title=t>old</p><i></i>").IsRoot Document.root :=
    ⟨by decide +kernel, by decide +kernel⟩
  obtain ⟨d', r, hrun, hordered, hconsistent⟩ :=
    hydrateNodes_inOrder .ignoringTitles (.parse "<p class=a title=t>old</p><i></i>") hroot
      [.element "p" (.ofList [("class", "b")]) [.text "new"]]
  have hcomputed : (hydrateNodes .ignoringTitles
      (Document.parse "<p class=a title=t>old</p><i></i>") Document.root
      [.element "p" (.ofList [("class", "b")]) [.text "new"]]).toOption.map
        (fun result => (result.2.records.map (fun s => (s.mismatch.path, s.action)),
          result.2.reported.map fun s => s.mismatch.level)) =
      some ([([0], .patchValue), ([0], .ignore), ([0, 0], .patchValue), ([1], .replaceNode)],
        [.warn, .warn, .error]) := by decide +kernel
  rw [hrun] at hcomputed
  obtain ⟨hrecords, hlevels⟩ := Prod.mk.inj (Option.some.inj hcomputed)
  have hsome : r.reported ≠ [] := by
    intro hnone
    rw [hnone] at hlevels
    cases hlevels
  refine ⟨hroot, d', r, hrun, hrecords, ?_, hordered⟩
  rw [hconsistent.entries, if_neg hsome, List.map_append, List.map_map]
  exact congrArg (· ++ [Level.warn]) hlevels

end

end TwinRender
