import TwinRender.Proofs.Hydration.Whole

/-!
# Conforming trees

Live nodes conform to expected nodes when they pair off one to one, with the same tags, attributes
and texts as far as comparison goes. Comments do not count. A pass makes no record exactly when the
nodes below its root conform to the expected ones, and then it leaves no trace.

## Main definitions

* `Document.Fits`, `Document.FitsAll`: live nodes that fit expected ones.
* `Document.Conforms`: the nodes below a node fit the expected ones.
* `Plan.Keeps`: a plan that does nothing about any mismatch leaves everything as it is.

## Main results

* `Plan.node_keeps`, `Plan.nodes_keep`: what is not repaired is left as it is.
* `hydrateNodes_of_conforms`: a pass over conforming nodes leaves no trace.
* `hydrateNodes_records_eq_nil_iff`: **a pass makes no record exactly when the nodes below its root
  conform**, and then it changes nothing and is clean.
-/

namespace TwinRender

open Pass (comparedNames)
open Snapshot (live)

/-! ### Conformity -/

namespace Document

/-- Every attribute that is expected or found has the same value on both sides. -/
def AttributesFit (d : Document) (id : NodeId) (expected : OrderedMap String) : Prop :=
  ∀ name, expected.contains name = true ∨
      ((d.attributes? id).getD .empty).contains name = true →
    sameAttribute name (expected.get? name) (d.attribute? id name) = true

mutual

/-- A live node fits an expected one. -/
def Fits (d : Document) (id : NodeId) : VNode → Prop
  | .element tag attributes children =>
    d.tag? id = some tag ∧ d.AttributesFit id attributes ∧
      FitsAll d (d.liveChildren id) children
  | .text s => ∃ found, d.payload? id = some (.text found) ∧ canonicalText found = canonicalText s

/-- Live nodes fit expected ones, one by one. -/
def FitsAll (d : Document) (ids : List NodeId) : List VNode → Prop
  | [] => ids = []
  | n :: ns => ∃ id rest, ids = id :: rest ∧ Fits d id n ∧ FitsAll d rest ns

end

/-- The nodes below a node fit the expected ones. -/
def Conforms (d : Document) (root : NodeId) (expected : List VNode) : Prop :=
  d.FitsAll (d.liveChildren root) expected

end Document

/-! ### Plans without records -/

namespace Plan

variable {o : HydrationOptions} {subject : String} {path : List Nat} {next : NodeId}
  {t : Snapshot}

/-- A plan with a note has a record. -/
theorem records_note_ne_nil {α : Type} (p : Plan α) (r : Record) :
    (p.note r).effect.records ≠ [] :=
  List.append_ne_nil_of_right_ne_nil _ (List.cons_ne_nil r [])

/-- The names that are compared are the ones on either side. -/
theorem mem_comparedNames {expected found : OrderedMap String} {name : String} :
    name ∈ comparedNames expected found ↔
      expected.contains name = true ∨ found.contains name = true := by
  rw [comparedNames, List.mem_append, List.mem_filter, OrderedMap.mem_keys_iff,
    OrderedMap.mem_keys_iff]
  cases expected.contains name <;> simp

/-- No attribute differs when all of them are the same. -/
theorem differences_eq_nil_iff {tag : String} {expected found : OrderedMap String} :
    differences o tag path expected found = [] ↔
      ∀ name, expected.contains name = true ∨ found.contains name = true →
        sameAttribute name (expected.get? name) (found.get? name.toLower) = true := by
  rw [differences, List.filterMap_eq_nil_iff]
  simp only [difference?, mem_comparedNames, ite_eq_left_iff, reduceCtorEq, imp_false,
    Bool.not_eq_true, Bool.not_eq_false]

section

variable {tag : String} {attributes found : OrderedMap String} {children : List VNode}

/-- An element leaves no record when neither its attributes nor the nodes below it do. -/
theorem records_node_eq_nil_iff (ht : t.payload = .element tag found) :
    (node o subject path next t (.element tag attributes children)).effect.records = [] ↔
      differences o tag path attributes found = [] ∧
        (nodes o ("<" ++ tag ++ ">") path next 0 t.children children).effect.records = [] := by
  by_cases hreplace : ∃ r ∈ differences o tag path attributes found, r.action = .replaceNode
  · obtain ⟨r, hr, -⟩ := id hreplace
    rw [node_of_replace ht hreplace, Effect.records_append, List.append_eq_nil_iff]
    exact ⟨fun h => absurd h.1 (List.ne_nil_of_mem hr),
      fun h => absurd h.1 (List.ne_nil_of_mem hr)⟩
  · rw [node_of_patch ht hreplace, Effect.records_append, records_patches,
      List.append_eq_nil_iff]

end

/-- Nodes behind the last expected one leave no record when all of them are comments. -/
theorem records_extras_eq_nil_iff (ts : List Snapshot) (index : Nat) :
    (extras o subject path index ts).effect.records = [] ↔ live ts = [] := by
  induction ts generalizing index with
  | nil => exact Iff.intro (fun _ => rfl) fun _ => rfl
  | cons t rest ih =>
      rw [extras]
      by_cases hcomment : t.payload.isComment = true
      · rw [if_pos hcomment, Snapshot.live_cons_comment hcomment]
        exact ih index
      · rw [if_neg hcomment, Snapshot.live_cons (by simpa using hcomment)]
        constructor
        · intro h
          exact absurd (List.append_eq_nil_iff.mp h).1 (records_note_ne_nil _ _)
        · intro h
          exact absurd h (List.cons_ne_nil _ _)

/-! ### Plans in which nothing is done -/

/-- A plan that does nothing about any mismatch leaves everything as it is. -/
def Keeps {α : Type} (p : Plan α) (a : α) : Prop :=
  (∀ r ∈ p.effect.records, r.action.mutates = false) → p = ⟨a, .ofRecords p.effect.records⟩

namespace Keeps

/-- A plan without records changes nothing. -/
theorem eq_keep {α : Type} {p : Plan α} {a : α} (h : p.Keeps a) (hnone : p.effect.records = []) :
    p = keep a := by
  have hkept := h (by rw [hnone]; exact fun r hr => absurd hr List.not_mem_nil)
  rw [hnone] at hkept
  exact hkept

/-- Nothing is done where everything is kept. -/
theorem of_keep {α : Type} (a : α) : (keep a).Keeps a := fun _ => rfl

/-- Nothing is done about a single mismatch where everything is kept besides. -/
theorem of_note {α : Type} {p : Plan α} {a : α} {r : Record}
    (h : r.action.mutates = false → p = keep a) : (p.note r).Keeps a := by
  intro hall
  rw [h (hall r (List.mem_append_right _ (List.mem_singleton_self r)))]
  rfl

/-- Nothing is done about a node that would be put in, or be taken out, otherwise. -/
theorem of_repair {α : Type} {p : Plan α} {a : α} {m : Mismatch} :
    ((if o.classify m = .replaceNode then p else keep a).note ⟨m, o.classify m⟩).Keeps a := by
  refine of_note fun hr => if_neg fun hreplace => ?_
  rw [hreplace] at hr
  cases hr

/-- Trees behind other trees are kept one by one. -/
theorem append {p q : Plan (List Snapshot)} {ts us : List Snapshot} (hp : p.Keeps ts)
    (hq : q.Keeps us) : (p.append q).Keeps (ts ++ us) := by
  intro h
  have hrecords : (p.append q).effect.records = p.effect.records ++ q.effect.records := rfl
  rw [hrecords, List.forall_mem_append] at h
  rw [hrecords, Plan.append, hp h.1, hq h.2]
  rfl

/-- A single tree is kept as a list of trees. -/
theorem single {p : Plan Snapshot} (h : p.Keeps t) : p.single.Keeps [t] := by
  intro hall
  have hrecords : p.single.effect.records = p.effect.records := rfl
  rw [hrecords, Plan.single, h hall]
  rfl

end Keeps

/-- Nothing is done about nodes behind the last expected one, or they are taken out. -/
theorem extras_keep (ts : List Snapshot) (index : Nat) :
    (extras o subject path index ts).Keeps ts := by
  induction ts generalizing index with
  | nil => exact Keeps.of_keep []
  | cons t rest ih =>
      rw [extras]
      split
      · exact (Keeps.of_keep [t]).append (ih index)
      · exact (Keeps.of_repair : (extra o subject (path ++ [index]) t).Keeps [t]).append
          (ih (index + 1))

/-- Nothing is done about a text, or it is patched or replaced. -/
theorem text_keeps (found expected : String) :
    (text o subject path next t found expected).Keeps t := by
  by_cases hsame : canonicalText found = canonicalText expected
  · rw [show text o subject path next t found expected = keep t from if_pos hsame]
    exact Keeps.of_keep t
  · rw [text_of_action hsame rfl]
    refine Keeps.of_note fun hr => ?_
    cases haction : o.classify ⟨path, subject, .text expected found⟩ with
    | patchValue => rw [haction] at hr; cases hr
    | replaceNode => rw [haction] at hr; cases hr
    | reportOnly => rfl
    | ignore => rfl

mutual

/-- **A plan that does nothing leaves a node as it is.** -/
theorem node_keeps {path : List Nat} {next : NodeId} {subject : String} {t : Snapshot}
    (n : VNode) : (node o subject path next t n).Keeps t := by
  cases n with
  | element tag attributes children =>
      by_cases htag : t.payload.tag? = some tag
      · obtain ⟨found, ht⟩ := Payload.exists_of_tag? htag
        by_cases hreplace : ∃ r ∈ differences o tag path attributes found, r.action = .replaceNode
        · intro h
          obtain ⟨r, hr, haction⟩ := id hreplace
          rw [node_of_replace ht hreplace] at h
          have hkept := h r (List.mem_append_left _ hr)
          rw [haction] at hkept
          cases hkept
        · rw [node_of_patch ht hreplace]
          intro h
          rw [Effect.records_append, records_patches, List.forall_mem_append] at h
          have hpatches := @patches_of_kept found _ fun r hr haction => by
            have hkept := h.1 r hr
            rw [haction] at hkept
            cases hkept
          rw [hpatches, nodes_keep children h.2]
          obtain ⟨id, payload, below⟩ := t
          obtain rfl : payload = .element tag found := ht
          rfl
      · rw [node, if_neg htag]
        exact Keeps.of_repair
  | text s =>
      rw [node]
      cases ht : t.payload with
      | text found => exact text_keeps found s
      | element tag found => exact Keeps.of_repair
      | comment found => exact Keeps.of_repair
      | document => exact Keeps.of_repair

/-- **A plan that does nothing leaves neighbouring nodes as they are.** -/
theorem nodes_keep {path : List Nat} {next : NodeId} {subject : String} {index : Nat}
    {ts : List Snapshot} (ns : List VNode) : (nodes o subject path next index ts ns).Keeps ts := by
  cases ns with
  | nil =>
      rw [nodes]
      exact extras_keep ts index
  | cons n ns =>
      rcases Snapshot.live_split ts with hnone | ⟨comments, t, rest, rfl, hcomments, ht⟩
      · rw [nodes_of_live_eq_nil hnone]
        have habsent : (absent o subject (path ++ [index]) next n).Keeps [] := Keeps.of_repair
        have hkept := (Keeps.of_keep ts).append (habsent.append
          (@nodes_keep path (next + (absent o subject (path ++ [index]) next n).effect.count) subject
            (index + 1) [] ns))
        rwa [List.append_nil, List.append_nil] at hkept
      · rw [nodes_of_live hcomments ht]
        exact (Keeps.of_keep comments).append ((node_keeps n).single.append (nodes_keep ns))

end

end Plan

/-! ### No records, and conformity -/

mutual

/-- A tree leaves no record exactly when its topmost node fits. -/
theorem Plan.records_node_iff_fits {o : HydrationOptions} {subject : String} {path : List Nat}
    {next : NodeId} {d : Document} {parent : Option NodeId} {t : Snapshot}
    (hheld : d.Holds parent t) (n : VNode) :
    (Plan.node o subject path next t n).effect.records = [] ↔ d.Fits t.id n := by
  have hcell := hheld.cell
  have hpayload := Document.payload?_of_cell? hcell
  cases n with
  | element tag attributes children =>
      have htag : d.tag? t.id = t.payload.tag? := by
        rw [Document.tag?, hpayload, Option.bind_some]
      rw [Document.Fits, htag]
      by_cases hsame : t.payload.tag? = some tag
      · obtain ⟨found, ht⟩ := Payload.exists_of_tag? hsame
        have hattributes : d.attributes? t.id = some found := by
          rw [Document.attributes?, hpayload, ht]
          rfl
        have hlive := Pass.liveChildren_eq (Document.children_of_cell? hcell) hheld.below
        rw [records_node_eq_nil_iff ht, differences_eq_nil_iff,
          Plan.records_nodes_iff_fitsAll hheld.below children, hlive, Document.AttributesFit,
          hattributes]
        simp only [Document.attribute?, hattributes, Option.bind_some, Option.getD_some, hsame,
          true_and]
      · rw [Plan.node, if_neg hsame]
        exact ⟨fun h => absurd h (records_note_ne_nil _ _), fun h => absurd h.1 hsame⟩
  | text s =>
      rw [Plan.node, Document.Fits, hpayload]
      cases ht : t.payload with
      | text found =>
          simp only [Plan.text]
          split
          · rename_i hsame
            exact ⟨fun _ => ⟨found, rfl, hsame⟩, fun _ => rfl⟩
          · rename_i hother
            constructor
            · intro h
              exact absurd h (records_note_ne_nil _ _)
            · rintro ⟨_, heq, hsame⟩
              cases heq
              exact absurd hsame hother
      | _ =>
          constructor
          · intro h
            exact absurd h (records_note_ne_nil _ _)
          · rintro ⟨_, heq, -⟩
            cases heq

/-- Trees leave no record exactly when their topmost nodes fit. -/
theorem Plan.records_nodes_iff_fitsAll {o : HydrationOptions} {subject : String}
    {path : List Nat} {next : NodeId} {index : Nat} {d : Document} {parent : Option NodeId}
    {ts : List Snapshot} (hheld : d.HoldsAll parent ts) (ns : List VNode) :
    (Plan.nodes o subject path next index ts ns).effect.records = [] ↔
      d.FitsAll ((live ts).map Snapshot.id) ns := by
  cases ns with
  | nil =>
      rw [Plan.nodes, Document.FitsAll, records_extras_eq_nil_iff, List.map_eq_nil_iff]
  | cons n ns =>
      rw [Document.FitsAll]
      rcases Snapshot.live_split ts with hnone | ⟨comments, t, rest, rfl, hcomments, ht⟩
      · rw [Plan.nodes_of_live_eq_nil hnone, hnone]
        constructor
        · intro h
          have habsent := (List.append_eq_nil_iff.mp (List.append_eq_nil_iff.mp h).2).1
          exact absurd habsent (records_note_ne_nil _ _)
        · rintro ⟨_, _, h, -⟩
          cases h
      · obtain ⟨-, hfirst, hrest⟩ := Document.holdsAll_append.mp hheld
        have hnode := @Plan.records_node_iff_fits o subject (path ++ [index]) next _ _ _ hfirst n
        have hnodes := @Plan.records_nodes_iff_fitsAll o subject path
          (next + (Plan.node o subject (path ++ [index]) next t n).effect.count) (index + 1) _ _ _
          hrest ns
        rw [Plan.nodes_of_live hcomments ht, Snapshot.live_append_cons hcomments ht]
        constructor
        · intro h
          obtain ⟨hr, hrs⟩ := List.append_eq_nil_iff.mp (List.append_eq_nil_iff.mp h).2
          exact ⟨_, _, rfl, hnode.mp hr, hnodes.mp hrs⟩
        · rintro ⟨_, _, h, hfit, hfits⟩
          cases h
          exact List.append_eq_nil_iff.mpr
            ⟨rfl, List.append_eq_nil_iff.mpr ⟨hnode.mpr hfit, hnodes.mpr hfits⟩⟩

end

/-! ### Passes without records -/

section

variable {d : Document} {root : NodeId}

/-- The plan for the nodes below a root has no record exactly when they conform. -/
theorem Plan.records_nodes_iff_conforms {o : HydrationOptions} {subject : String}
    {path : List Nat} {next : NodeId} {index : Nat} {payload : Payload} {above : Option NodeId}
    {ts : List Snapshot} (hhas : d.Has (.whole root payload above) ts) (expected : List VNode) :
    (Plan.nodes o subject path next index ts expected).effect.records = [] ↔
      d.Conforms root expected := by
  have hlive : d.liveChildren root = (live ts).map Snapshot.id :=
    Pass.liveChildren_eq (Document.children_of_cell? hhas.cell_whole) hhas.held
  rw [Document.Conforms, hlive]
  exact Plan.records_nodes_iff_fitsAll hhas.held expected

/-- **Where the nodes below a root conform, a pass leaves no trace**: it changes nothing, is clean
and has nothing to say. -/
theorem hydrateNodes_of_conforms (o : HydrationOptions) (hd : d.Reachable)
    (hroot : d.IsRoot root) {expected : List VNode} (h : d.Conforms root expected) :
    ∃ r, hydrateNodes o d root expected = .ok (d, r) ∧ r.records = [] ∧
      r.state = .cleanFinish ∧ r.diagnostics.entries = [] ∧ r.replaced = 0 ∧ r.patched = 0 := by
  obtain ⟨payload, above, ts, hcontainer, hhas⟩ := hroot.exists_has hd.sound
  obtain ⟨p, hrun, hdid, hhas'⟩ := hydrateNodes_carries o hd hroot hcontainer hhas expected
  rw [(Plan.nodes_keep expected).eq_keep ((Plan.records_nodes_iff_conforms hhas expected).mpr h)]
    at hdid hhas'
  have hnone : p.records = [] := hdid.records
  have hdiagnostics : p.diagnostics = .empty := hdid.diagnostics
  have hdocument : p.document = d := hdid.document_eq rfl rfl hhas hhas'
  rw [hdocument] at hrun
  refine ⟨p.report, hrun, hnone, ?_, ?_, hdid.replaced, hdid.patched⟩
  · rw [Pass.report, hnone]
    rfl
  · rw [Pass.report, hdiagnostics]
    rfl

/-- **A pass makes no record exactly when the nodes below its root conform**, and then it changes
nothing and is clean. -/
theorem hydrateNodes_records_eq_nil_iff (o : HydrationOptions) (hd : d.Reachable)
    (hroot : d.IsRoot root) (expected : List VNode) :
    ∃ d' r, hydrateNodes o d root expected = .ok (d', r) ∧
      (r.records = [] ↔ d.Conforms root expected) ∧
      (d.Conforms root expected → d' = d ∧ r.state = .cleanFinish ∧ r.diagnostics.entries = [] ∧
        r.replaced = 0 ∧ r.patched = 0) := by
  obtain ⟨payload, above, ts, hcontainer, hhas⟩ := hroot.exists_has hd.sound
  obtain ⟨p, hrun, hdid, -⟩ := hydrateNodes_carries o hd hroot hcontainer hhas expected
  refine ⟨p.document, p.report, hrun, ?_, fun h => ?_⟩
  · rw [← Plan.records_nodes_iff_conforms hhas expected, Pass.report, hdid.records]
    rfl
  · obtain ⟨r, hclean, -, hstate, hentries, hreplaced, hpatched⟩ :=
      hydrateNodes_of_conforms o hd hroot h
    rw [hrun] at hclean
    obtain ⟨hdocument, rfl⟩ := Prod.mk.inj (Except.ok.inj hclean)
    exact ⟨hdocument, hstate, hentries, hreplaced, hpatched⟩

/-- A parsed paragraph conforms when only comments and the spaces between words differ. -/
theorem conforms_parsed :
    (Document.parse "<p class=\" a  b\"><!--1-->hi</p><!--2-->").IsRoot Document.root ∧
      (Document.parse "<p class=\" a  b\"><!--1-->hi</p><!--2-->").Conforms Document.root
        [.element "p" (.ofList [("class", "a b")]) [.text "hi"]] := by
  have hroot : (Document.parse "<p class=\" a  b\"><!--1-->hi</p><!--2-->").IsRoot
      Document.root := ⟨by decide +kernel, by decide +kernel⟩
  obtain ⟨d', r, hrun, hiff, -⟩ := hydrateNodes_records_eq_nil_iff .standard (.parse _) hroot
    [.element "p" (.ofList [("class", "a b")]) [.text "hi"]]
  have hrecords : (hydrateNodes .standard
      (Document.parse "<p class=\" a  b\"><!--1-->hi</p><!--2-->") Document.root
      [.element "p" (.ofList [("class", "a b")]) [.text "hi"]]).toOption.map
        (fun result => result.2.records) = some [] := by decide +kernel
  rw [hrun] at hrecords
  exact ⟨hroot, hiff.mp (Option.some.inj hrecords)⟩

end

end TwinRender
