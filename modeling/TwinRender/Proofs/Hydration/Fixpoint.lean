import TwinRender.Proofs.Hydration.Records
import TwinRender.Proofs.Hydration.Whole

/-!
# A second pass

What a pass leaves, a second pass with the same options leaves alone. Nodes that were mounted agree
with the expected ones, patched values are the expected ones, and what was only reported is
reported again, in the same order, unless a node above it was replaced meanwhile.

## Main definitions

* `Plan.Settles`: a second plan changes nothing, and makes again the records that stay.
* `HydrationOptions.RepairsAll`: the options leave no mismatch as it is.

## Main results

* `Plan.node_mounted`: a mounted node agrees with the node that it is made of.
* `Plan.node_settles`, `Plan.nodes_settle`: **a plan settles what it is about**.
* `hydrateNodes_again`: **a second pass changes nothing**, and makes again the records that stay.
-/

namespace TwinRender

open Snapshot (live)
open VNode (mountedList AreLowercase)

namespace Plan

variable {o : HydrationOptions} {subject : String} {path : List Nat} {next next' : NodeId}

/-- A second plan changes nothing, and makes again the records that stay. -/
def Settles {α : Type} (first again : Plan α) : Prop :=
  again = ⟨first.value, .ofRecords (survivors first.effect.records)⟩

/-! ### Mounted nodes -/

/-- A mounted node is no comment. -/
theorem isComment_mounted (next : NodeId) (n : VNode) :
    (n.mounted next).payload.isComment = false := by
  cases n <;> rfl

/-- Attributes do not differ from themselves. -/
theorem differences_self {tag : String} {attributes : OrderedMap String}
    (h : ∀ name ∈ attributes.keys, name.toLower = name) :
    differences o tag path attributes attributes = [] := by
  refine List.filterMap_eq_nil_iff.mpr fun name hname => ?_
  have hmem : name ∈ attributes.keys := by
    rcases List.mem_append.mp hname with hname | hname
    · exact hname
    · exact (List.mem_filter.mp hname).1
  rw [h name hmem, difference?_self]

mutual

/-- **A mounted node agrees with the node that it is made of.** -/
theorem node_mounted {subject : String} {path : List Nat} {next next' : NodeId} (n : VNode)
    (hn : n.IsLowercase) :
    node o subject path next' (n.mounted next) n = keep (n.mounted next) := by
  cases n with
  | text s => exact if_pos rfl
  | element tag attributes children =>
      have hpayload : ((VNode.element tag attributes children).mounted next).payload =
          .element tag attributes := by
        rw [VNode.mounted, Snapshot.payload, hn.1.tag,
          OrderedMap.lowerKeys_eq_self hn.1.attributes]
      have hsame := @differences_self o path tag _ hn.1.attributes
      have hstay : ¬ ∃ r ∈ differences o tag path attributes attributes,
          r.action = .replaceNode := by
        rw [hsame]
        rintro ⟨r, hr, -⟩
        cases hr
      rw [node_of_patch hpayload hstay, hsame, patches, VNode.mounted, hn.1.tag,
        OrderedMap.lowerKeys_eq_self hn.1.attributes]
      simp only [Snapshot.children, nodes_mounted children hn.2]
      rfl

/-- **Mounted nodes agree with the nodes that they are made of.** -/
theorem nodes_mounted {subject : String} {path : List Nat} {next next' : NodeId} {index : Nat}
    (ns : List VNode) (hns : AreLowercase ns) :
    nodes o subject path next' index (mountedList next ns) ns = keep (mountedList next ns) := by
  cases ns with
  | nil => rfl
  | cons n ns =>
      rw [mountedList]
      refine (@nodes_of_live o subject path next' index n ns [] _ _ rfl
        (isComment_mounted next n)).trans ?_
      rw [node_mounted n hns.1, nodes_mounted ns hns.2]
      rfl

end

/-! ### Notes -/

/-- What is done about a mismatch settles it. -/
theorem Settles.of_mutates {α : Type} {p again : Plan α} {r : Record}
    (hp : p.effect.records = []) (hr : r.action.mutates = true) (hagain : again = keep p.value) :
    (p.note r).Settles again := by
  have hrecords : (p.note r).effect.records = [r] := by
    rw [note, Effect.records_append, hp]
    rfl
  rw [Settles, hrecords, survivors_eq_nil, hagain]
  · rfl
  · simpa using hr

/-- What is left as it is is reported again. -/
theorem Settles.of_kept {α : Type} {a : α} {again : Plan α} {r : Record}
    (hr : r.action.mutates = false) (hagain : again = (keep a).note r) :
    ((keep a).note r).Settles again := by
  have hsurvivors : survivors [r] = [r] := by
    rw [survivors_of_kept]
    · cases haction : r.action <;> simp_all [RepairAction.mutates]
    · cases haction : r.action <;> simp_all [RepairAction.mutates]
  change again = ⟨a, .ofRecords (survivors [r])⟩
  rw [hsurvivors, hagain]
  rfl

/-- Nothing settles itself. -/
theorem Settles.keep {α : Type} (a : α) : (Plan.keep a).Settles (Plan.keep a) := rfl

/-- **Trees behind other trees are settled one by one**, when their records are at different
paths. -/
theorem Settles.append {p q p' q' : Plan (List Snapshot)} (hp : p.Settles p') (hq : q.Settles q')
    (hpath : ∀ r ∈ p.effect.records, ∀ s ∈ q.effect.records,
      r.mismatch.path ≠ s.mismatch.path) : (p.append q).Settles (p'.append q') := by
  rw [Settles] at hp hq
  have hrecords : survivors (p.append q).effect.records =
      survivors p.effect.records ++ survivors q.effect.records := survivors_append hpath
  rw [Settles, hp, hq, hrecords]
  rfl

/-- Trees behind kept ones are settled. -/
theorem Settles.keep_append {p p' : Plan (List Snapshot)} (h : p.Settles p')
    (ts : List Snapshot) : ((Plan.keep ts).append p).Settles ((Plan.keep ts).append p') :=
  Settles.append (Settles.keep ts) h fun _ hr => absurd hr List.not_mem_nil

/-- A single tree is settled as a list of trees. -/
theorem Settles.single {p p' : Plan Snapshot} (h : p.Settles p') :
    p.single.Settles p'.single := by
  rw [Settles] at h
  rw [h]
  rfl

/-! ### Single nodes -/

section

variable {t : Snapshot} {n : VNode}

/-- A node of another kind than the expected one is replaced for good, or reported again. -/
theorem missing_settles (hn : n.IsLowercase)
    (hother : ∀ next, node o subject path next t n = missing o subject path next t n) :
    (missing o subject path next t n).Settles
      (node o subject path next' (missing o subject path next t n).value n) := by
  cases hrepair : o.structuralRepair with
  | true =>
      rw [missing_of_repair hrepair]
      exact Settles.of_mutates rfl rfl (node_mounted n hn)
  | false =>
      rw [missing_of_report hrepair]
      exact Settles.of_kept rfl ((hother next').trans (missing_of_report hrepair))

/-- A text with other content is patched or replaced for good, or reported again. -/
theorem text_settles {found expected : String} (ht : t.payload = .text found) :
    (text o subject path next t found expected).Settles
      (node o subject path next' (text o subject path next t found expected).value
        (.text expected)) := by
  have hnode : node o subject path next' t (.text expected) =
      text o subject path next' t found expected := by
    rw [node, ht]
  by_cases hsame : canonicalText found = canonicalText expected
  · have hkeep (next : NodeId) : text o subject path next t found expected = keep t :=
      if_pos hsame
    rw [hkeep]
    exact (hnode.trans (hkeep next')).trans (Settles.keep t)
  · cases haction : o.classify ⟨path, subject, .text expected found⟩ with
    | patchValue =>
        rw [text_of_action hsame haction]
        exact Settles.of_mutates rfl rfl (if_pos rfl)
    | replaceNode =>
        rw [text_of_action hsame haction]
        exact Settles.of_mutates rfl rfl (node_mounted (.text expected) trivial)
    | reportOnly =>
        rw [text_of_action hsame haction]
        exact Settles.of_kept rfl (hnode.trans (text_of_action hsame haction))
    | ignore =>
        rw [text_of_action hsame haction]
        exact Settles.of_kept rfl (hnode.trans (text_of_action hsame haction))

/-- An element is replaced for good, or its attributes and the nodes below it are settled. -/
theorem element_settles {tag : String} {attributes found : OrderedMap String}
    {children : List VNode} (ht : t.payload = .element tag found)
    (hfound : ∀ name ∈ found.keys, name.toLower = name)
    (hn : (VNode.element tag attributes children).IsLowercase)
    (hbelow : (nodes o ("<" ++ tag ++ ">") path next 0 t.children children).Settles
      (nodes o ("<" ++ tag ++ ">") path next' 0
        (nodes o ("<" ++ tag ++ ">") path next 0 t.children children).value children)) :
    (node o subject path next t (.element tag attributes children)).Settles
      (node o subject path next'
        (node o subject path next t (.element tag attributes children)).value
        (.element tag attributes children)) := by
  by_cases hreplace : ∃ r ∈ differences o tag path attributes found, r.action = .replaceNode
  · rw [node_of_replace ht hreplace, node_mounted _ hn, Settles, Effect.records_append,
      put, List.append_nil]
    change keep _ = Plan.mk _ (.ofRecords (survivors (differences o tag path attributes found)))
    rw [survivors_of_replaced (fun r hr => (path_of_mem_differences hr).1) hreplace]
    rfl
  · have hstay : ∀ r ∈ differences o tag path attributes found, r.action ≠ .replaceNode :=
      fun r hr haction => hreplace ⟨r, hr, haction⟩
    rw [node_of_patch ht hreplace]
    generalize hpatched :
      (patches found (differences o tag path attributes found)).value = patched
    generalize hfirst : nodes o ("<" ++ tag ++ ">") path next 0 t.children children = first
      at hbelow ⊢
    have hleft : differences o tag path attributes patched =
        (differences o tag path attributes found).filter
          fun r => decide (r.action ≠ .patchValue) := by
      rw [← hpatched]
      exact differences_patches hn.1.attributes hfound
    have hmem {r : Record} (hr : r ∈ differences o tag path attributes patched) :
        r ∈ differences o tag path attributes found ∧ r.action ≠ .patchValue := by
      rw [hleft] at hr
      simpa using List.mem_filter.mp hr
    have hagain : ¬ ∃ r ∈ differences o tag path attributes patched, r.action = .replaceNode := by
      rintro ⟨r, hr, haction⟩
      exact hstay r (hmem hr).1 haction
    have hrecords : survivors (differences o tag path attributes found ++ first.effect.records) =
        differences o tag path attributes patched ++ survivors first.effect.records := by
      rw [survivors_append, survivors_of_kept hstay, hleft]
      intro r hr s hs
      rw [← hfirst] at hs
      obtain ⟨j, -, hmade⟩ := isMadeAt_of_mem_nodes children hs
      rw [(path_of_mem_differences hr).1]
      exact hmade.path_ne_above
    rw [Settles] at hbelow
    rw [Settles, Effect.records_append, records_patches, hrecords,
      @node_of_patch o subject path next' (.node t.id (.element tag patched) first.value) tag
        attributes patched children rfl hagain,
      patches_of_kept fun r hr => (hmem hr).2]
    simp only [Snapshot.children, Snapshot.id, hbelow]
    rfl

/-- What is left where a node is expected is no comment if it was none. -/
theorem isComment_node (ht : t.payload.isComment = false) (n : VNode) :
    (node o subject path next t n).value.payload.isComment = false := by
  have hmissing (n : VNode) :
      (missing o subject path next t n).value.payload.isComment = false := by
    rw [missing, note]
    split
    · exact isComment_mounted next n
    · exact ht
  cases n with
  | element tag attributes children =>
      by_cases htag : t.payload.tag? = some tag
      · obtain ⟨found, hfound⟩ := Payload.exists_of_tag? htag
        by_cases hreplace : ∃ r ∈ differences o tag path attributes found, r.action = .replaceNode
        · rw [node_of_replace hfound hreplace]
          exact isComment_mounted next _
        · rw [node_of_patch hfound hreplace]
          rfl
      · rw [node, if_neg htag]
        exact hmissing _
  | text s =>
      rw [node]
      cases hpayload : t.payload with
      | text found =>
          simp only [text]
          split
          · exact ht
          · simp only [note]
            split
            · rfl
            · rfl
            · exact ht
            · exact ht
      | element tag found => exact hmissing _
      | comment found => exact hmissing _
      | document => exact hmissing _

end

/-! ### Neighbouring nodes -/

/-- Nodes behind the last expected one are all taken out when nodes are repaired. -/
theorem extras_of_repair (h : o.structuralRepair = true) (ts : List Snapshot) (index : Nat) :
    live (extras o subject path index ts).value = [] ∧
      ∀ r ∈ (extras o subject path index ts).effect.records, r.action.mutates = true := by
  induction ts generalizing index with
  | nil => exact ⟨rfl, fun _ hr => absurd hr List.not_mem_nil⟩
  | cons t rest ih =>
      rw [extras]
      split
      · rename_i hcomment
        refine ⟨(Snapshot.live_cons_comment hcomment _).trans (ih index).1, fun r hr => ?_⟩
        exact (ih index).2 r ((List.mem_append.mp hr).resolve_left List.not_mem_nil)
      · rw [extra_of_repair h]
        refine ⟨(ih (index + 1)).1, fun r hr => ?_⟩
        rcases List.mem_append.mp hr with hr | hr
        · obtain rfl := List.mem_singleton.mp hr
          rfl
        · exact (ih (index + 1)).2 r hr

/-- Nodes behind the last expected one are taken out for good, or reported again. -/
theorem extras_settle (ts : List Snapshot) (index : Nat) :
    (extras o subject path index ts).Settles
      (extras o subject path index (extras o subject path index ts).value) := by
  cases hrepair : o.structuralRepair with
  | true =>
      obtain ⟨hlive, hmutates⟩ := @extras_of_repair o subject path hrepair ts index
      rw [extras_eq_keep _ index hlive, Settles, survivors_eq_nil hmutates]
      rfl
  | false =>
      induction ts generalizing index with
      | nil => rfl
      | cons t rest ih =>
          by_cases hcomment : t.payload.isComment = true
          · have hcons (others : List Snapshot) : extras o subject path index (t :: others) =
                (keep [t]).append (extras o subject path index others) := by
              rw [extras, if_pos hcomment]
            rw [hcons]
            refine (hcons _).trans ?_
            exact (ih index).keep_append [t]
          · have hcons (others : List Snapshot) : extras o subject path index (t :: others) =
                ((keep [t]).note ⟨⟨path ++ [index], subject, .extra t.payload.describe⟩,
                  .reportOnly⟩).append (extras o subject path (index + 1) others) := by
              rw [extras, if_neg hcomment, extra_of_report hrepair]
            rw [hcons]
            refine (hcons _).trans ?_
            refine Settles.append (Settles.of_kept rfl rfl) (ih (index + 1)) fun r hr s hs => ?_
            obtain rfl := List.mem_singleton.mp hr
            obtain ⟨j, hj, hmade⟩ := isMadeAt_of_mem_extras hs
            exact path_ne_of_prefix (List.prefix_refl _) hmade.path (Nat.ne_of_lt hj)

/-- Where nodes are not repaired, nothing comes of no trees. -/
theorem value_nodes_of_report (h : o.structuralRepair = false) (ns : List VNode) (index : Nat) :
    (nodes o subject path next index [] ns).value = [] := by
  induction ns generalizing next index with
  | nil => rfl
  | cons n ns ih =>
      rw [nodes_of_live_eq_nil rfl, absent_of_report h]
      exact ih _

/-- The records about later neighbours are not at a node or below it. -/
theorem path_ne_of_mem_nodes {index : Nat} {ts : List Snapshot} {ns : List VNode} {r s : Record}
    (hr : path ++ [index] <+: r.mismatch.path)
    (hs : s ∈ (nodes o subject path next (index + 1) ts ns).effect.records) :
    r.mismatch.path ≠ s.mismatch.path := by
  obtain ⟨j, hj, hmade⟩ := isMadeAt_of_mem_nodes ns hs
  exact path_ne_of_prefix hr hmade.path (Nat.ne_of_lt hj)

/-- A node that is not there is put in for good, or reported again, when what is behind it is
settled. -/
theorem absent_settles {n : VNode} (hn : n.IsLowercase) {ts : List Snapshot}
    (hnone : live ts = []) {index : Nat} {ns : List VNode}
    (hrest : ∀ next next', (nodes o subject path next (index + 1) [] ns).Settles
      (nodes o subject path next' (index + 1)
        (nodes o subject path next (index + 1) [] ns).value ns)) :
    (nodes o subject path next index ts (n :: ns)).Settles
      (nodes o subject path next' index (nodes o subject path next index ts (n :: ns)).value
        (n :: ns)) := by
  rw [nodes_of_live_eq_nil hnone]
  cases hrepair : o.structuralRepair with
  | true =>
      -- the second pass finds the node that was put in
      rw [absent_of_repair hrepair]
      refine (nodes_of_live hnone (isComment_mounted next n)).trans ?_
      refine Settles.keep_append (Settles.append ?_ (hrest _ _) ?_) ts
      · refine Settles.of_mutates rfl rfl ?_
        rw [node_mounted n hn]
        rfl
      · intro r hr s hs
        obtain rfl := List.mem_singleton.mp hr
        exact path_ne_of_mem_nodes (List.prefix_refl _) hs
  | false =>
      -- the second pass finds nothing either
      rw [absent_of_report hrepair]
      have hnothing (next : NodeId) :
          (nodes o subject path next (index + 1) [] ns).value = [] :=
        value_nodes_of_report hrepair ns (index + 1)
      have hvalue (r : Record) (next : NodeId) :
          ((keep ts).append (((keep []).note r).append
            (nodes o subject path next (index + 1) [] ns))).value = ts := by
        change ts ++ ([] ++ (nodes o subject path next (index + 1) [] ns).value) = ts
        rw [hnothing, List.append_nil, List.append_nil]
      simp only [hnothing] at hrest
      rw [hvalue, nodes_of_live_eq_nil hnone, absent_of_report hrepair]
      refine Settles.keep_append (Settles.append (Settles.of_kept rfl rfl) (hrest _ _) ?_) ts
      intro r hr s hs
      obtain rfl := List.mem_singleton.mp hr
      exact path_ne_of_mem_nodes (List.prefix_refl _) hs

mutual

/-- **A node is settled**: a second plan leaves it as it is. -/
theorem node_settles {subject : String} {path : List Nat} {next next' : NodeId} {d : Document}
    (hd : d.Sound) {parent : Option NodeId} {t : Snapshot} (hheld : d.Holds parent t) (n : VNode)
    (hn : n.IsLowercase) :
    (node o subject path next t n).Settles
      (node o subject path next' (node o subject path next t n).value n) := by
  cases n with
  | element tag attributes children =>
      by_cases htag : t.payload.tag? = some tag
      · obtain ⟨found, ht⟩ := Payload.exists_of_tag? htag
        have hpayload := Document.payload?_of_cell? hheld.cell
        rw [ht] at hpayload
        exact element_settles ht (hd.lowercase _ _ _ hpayload).attributes hn
          (nodes_settle hd hheld.below children hn.2)
      · have hother (next : NodeId) :
            node o subject path next t (.element tag attributes children) =
              missing o subject path next t (.element tag attributes children) := by
          rw [node, if_neg htag]
        rw [hother]
        exact missing_settles hn hother
  | text s =>
      cases ht : t.payload with
      | text found =>
          have htext : node o subject path next t (.text s) =
              text o subject path next t found s := by rw [node, ht]
          rw [htext]
          exact text_settles ht
      | _ =>
          have hother (next : NodeId) : node o subject path next t (.text s) =
              missing o subject path next t (.text s) := by rw [node, ht]
          rw [hother]
          exact missing_settles trivial hother

/-- **Neighbouring nodes are settled**: a second plan leaves them as they are. -/
theorem nodes_settle {subject : String} {path : List Nat} {next next' : NodeId} {index : Nat}
    {d : Document} (hd : d.Sound) {parent : Option NodeId} {ts : List Snapshot}
    (hheld : d.HoldsAll parent ts) (ns : List VNode) (hns : AreLowercase ns) :
    (nodes o subject path next index ts ns).Settles
      (nodes o subject path next' index (nodes o subject path next index ts ns).value ns) := by
  cases ns with
  | nil => exact extras_settle ts index
  | cons n ns =>
      rcases Snapshot.live_split ts with hnone | ⟨comments, t, rest, rfl, hcomments, ht⟩
      · have hnil : d.HoldsAll parent [] := trivial
        exact absent_settles hns.1 hnone fun next next' => nodes_settle hd hnil ns hns.2
      · rw [nodes_of_live hcomments ht]
        refine (nodes_of_live hcomments (isComment_node ht n)).trans ?_
        obtain ⟨-, hfirst, hrest⟩ := Document.holdsAll_append.mp hheld
        refine Settles.keep_append (Settles.append (node_settles hd hfirst n hns.1).single
          (nodes_settle hd hrest ns hns.2) fun r hr s hs => ?_) comments
        exact path_ne_of_mem_nodes (isMadeAt_of_mem_node n hr).path hs

end

end Plan

/-! ### Options that leave nothing -/

/-- The options leave no mismatch as it is. -/
structure HydrationOptions.RepairsAll (o : HydrationOptions) : Prop where
  /-- Styles are patched, or their elements replaced. -/
  style : o.styleAction.mutates = true
  /-- Other attributes are patched, or their elements replaced. -/
  others : o.attributeAction.mutates = true
  /-- Texts are patched or replaced. -/
  text : o.textAction.mutates = true
  /-- Nodes are repaired. -/
  nodes : o.structuralRepair = true
  /-- Single attributes are patched, or their elements replaced. -/
  overrides : ∀ e ∈ o.attributeOverrides.toList, e.2.mutates = true
  /-- Every attribute is looked at. -/
  ignored : o.ignoreAttributes = []

/-- Options that leave nothing do something about every mismatch. -/
theorem HydrationOptions.RepairsAll.mutates_classify {o : HydrationOptions} (h : o.RepairsAll)
    (m : Mismatch) : (o.classify m).mutates = true := by
  rw [HydrationOptions.classify]
  rcases m.divergence with ⟨name, expected, found⟩ | ⟨expected, found⟩ | ⟨expected, found⟩ | found
  · rw [HydrationOptions.actionFor, HydrationOptions.attributeActionFor,
      HydrationOptions.isIgnored, h.ignored, List.any_nil, if_neg Bool.false_ne_true]
    cases hoverride : o.override? name with
    | some action =>
        obtain ⟨e, he, rfl⟩ := Option.map_eq_some_iff.mp hoverride
        exact h.overrides e (List.mem_of_find?_eq_some he)
    | none =>
        rw [Option.getD_none]
        split
        · exact h.style
        · exact h.others
  · exact h.text
  · rw [HydrationOptions.actionFor, if_pos h.nodes]
    rfl
  · rw [HydrationOptions.actionFor, if_pos h.nodes]
    rfl

/-! ### Whole passes -/

section

variable {d : Document} {root : NodeId}

/-- **A second pass changes nothing**, and makes again the records about which nothing was done, at
nodes that were not replaced; none if the options leave nothing. -/
theorem hydrateNodes_again (o : HydrationOptions) (hd : d.Reachable) (hroot : d.IsRoot root)
    {expected : List VNode} (hexpected : AreLowercase expected) :
    ∃ d' r r', hydrateNodes o d root expected = .ok (d', r) ∧
      hydrateNodes o d' root expected = .ok (d', r') ∧
      r'.replaced = 0 ∧ r'.patched = 0 ∧ r'.records = survivors r.records ∧
      (o.RepairsAll → r'.records = [] ∧ r'.isClean = true) := by
  obtain ⟨payload, above, ts, hcontainer, hhas⟩ := hroot.exists_has hd.sound
  obtain ⟨p, hrun, hdid, hhas'⟩ := hydrateNodes_carries o hd hroot hcontainer hhas expected
  have hroot' := hdid.isRoot hd hroot hhas hhas'
  obtain ⟨p', hrun', hdid', hhas''⟩ :=
    hydrateNodes_carries o (hdid.reachable hd) hroot' hcontainer hhas' expected
  rw [Plan.nodes_settle hd.sound hhas.held expected hexpected] at hdid' hhas''
  have hdocument : p'.document = (Pass.start p.document).document :=
    hdid'.document_eq rfl rfl hhas' hhas''
  have hrecords : p'.records = survivors p.records := by
    rw [hdid'.records, hdid.records]
    rfl
  refine ⟨p.document, p.report, p'.report, hrun, hdocument ▸ hrun', hdid'.replaced, hdid'.patched,
    hrecords, fun hall => ?_⟩
  have hnone : p'.records = [] := by
    rw [hrecords, survivors_eq_nil]
    intro r hr
    rw [hdid.records] at hr
    obtain ⟨j, -, hmade⟩ := Plan.isMadeAt_of_mem_nodes expected hr
    rw [hmade.action]
    exact hall.mutates_classify r.mismatch
  refine ⟨hnone, ?_⟩
  rw [Report.isClean, Pass.report, hnone]
  rfl

/-- The standard options, with texts only reported. -/
def HydrationOptions.reportingTexts : HydrationOptions :=
  { HydrationOptions.standard with textAction := .reportOnly }

/-- In a parsed paragraph the class is patched and the text is only reported, so the text is
reported again. -/
theorem hydrateNodes_again_parsed :
    (Document.parse "<p class=a>old</p>").IsRoot Document.root ∧
      AreLowercase [.element "p" (.ofList [("class", "b")]) [.text "new"]] ∧
      ∃ d' r r', hydrateNodes .reportingTexts (.parse "<p class=a>old</p>") Document.root
          [.element "p" (.ofList [("class", "b")]) [.text "new"]] = .ok (d', r) ∧
        hydrateNodes .reportingTexts d' Document.root
          [.element "p" (.ofList [("class", "b")]) [.text "new"]] = .ok (d', r') ∧
        r.records.map Record.action = [.patchValue, .reportOnly] ∧
        r'.records.map Record.action = [.reportOnly] := by
  have hroot : (Document.parse "<p class=a>old</p>").IsRoot Document.root :=
    ⟨by decide +kernel, by decide +kernel⟩
  have hexpected : AreLowercase [.element "p" (.ofList [("class", "b")]) [.text "new"]] :=
    ⟨⟨⟨by decide +kernel, by decide +kernel⟩, trivial, trivial⟩, trivial⟩
  obtain ⟨d', r, r', hrun, hrun', -, -, hrecords, -⟩ :=
    hydrateNodes_again .reportingTexts (.parse _) hroot hexpected
  have hcomputed : (hydrateNodes .reportingTexts (Document.parse "<p class=a>old</p>")
      Document.root [.element "p" (.ofList [("class", "b")]) [.text "new"]]).toOption.map
        (fun result => (result.2.records.map Record.action,
          (survivors result.2.records).map Record.action)) =
      some ([.patchValue, .reportOnly], [.reportOnly]) := by
    decide +kernel
  rw [hrun] at hcomputed
  obtain ⟨hactions, hagain⟩ := Prod.mk.inj (Option.some.inj hcomputed)
  exact ⟨hroot, hexpected, d', r, r', hrun, hrun', hactions, hrecords ▸ hagain⟩

end

end TwinRender
