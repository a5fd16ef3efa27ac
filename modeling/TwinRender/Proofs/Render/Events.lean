import TwinRender.Proofs.Template.Evaluation
import TwinRender.Render.Tree

/-!
# The events of a tree

A list of nodes has events of its own: those that describe it. Building a tree from the events of
a list gives back the list with its adjacent texts merged, and the events of a run that failed are
the beginning of such events.

## Main definitions

* `VNode.events`, `VNode.listEvents`: the events that describe nodes.

## Main results

* `TreeBuilder.foldlM_listEvents`: the tree that is built from the events of nodes.
* `TreeBuilder.foldlM_prefix`: the beginning of events that can be built from can be built from.
-/

namespace TwinRender

namespace VNode

mutual

/-- The events that describe a node. -/
def events : VNode → List Event
  | .element tag attributes children =>
    .openElement tag :: (attributes.toList.map (fun a => .attribute a.1 a.2) ++
      (listEvents children ++ [.closeElement tag]))
  | .text s => [.text s]

/-- The events that describe nodes, one behind the other. -/
def listEvents : List VNode → List Event
  | [] => []
  | n :: ns => n.events ++ listEvents ns

end

/-- Lists are described one behind the other. -/
theorem listEvents_append (ms ns : List VNode) :
    listEvents (ms ++ ns) = listEvents ms ++ listEvents ns := by
  induction ms with
  | nil => rfl
  | cons m ms ih => rw [List.cons_append, listEvents, listEvents, ih, List.append_assoc]

/-- A single node is described by its events. -/
theorem listEvents_singleton (n : VNode) : listEvents [n] = n.events := by
  rw [listEvents, listEvents, List.append_nil]

/-! ### Pushing and merging -/

/-- Only the last sibling matters when a node is pushed. -/
theorem push_cons (last : VNode) (before : List VNode) (n : VNode) :
    push (last :: before) n = push [last] n ++ before := by
  rcases last with _ | s <;> rcases n with _ | t <;> rfl

/-- Only the first sibling matters when a node is merged into a list. -/
theorem mergeInto_cons (n first : VNode) (behind : List VNode) :
    mergeInto n (first :: behind) = mergeInto n [first] ++ behind := by
  rcases n with _ | s <;> rcases first with _ | t <;> rfl

/-- Pushing behind and merging in front do not disturb each other. -/
theorem mergeInto_push (m n : VNode) (ns : List VNode) :
    mergeInto m (push ns.reverse n).reverse = (push (mergeInto m ns).reverse n).reverse := by
  rcases ns with _ | ⟨first, behind⟩
  · rcases m with _ | s <;> rcases n with _ | t <;> rfl
  rcases List.eq_nil_or_concat behind with rfl | ⟨middle, last, rfl⟩
  · rcases m with _ | s <;> rcases first with _ | t <;> rcases n with _ | u <;>
      simp [push, mergeInto, String.append_assoc]
  -- with two siblings or more, the two ends are apart
  have hpush (front : List VNode) :
      (push (front ++ (middle ++ [last])).reverse n).reverse =
        front ++ (middle ++ (push [last] n).reverse) := by
    rw [List.reverse_append, List.reverse_append, List.reverse_singleton, List.append_assoc,
      List.singleton_append, push_cons, List.reverse_append, List.reverse_append,
      List.reverse_reverse, List.reverse_reverse, List.append_assoc]
  have hmerge := mergeInto_cons m first (middle ++ [last])
  rw [List.concat_eq_append, hmerge, hpush, ← List.singleton_append, hpush,
    List.singleton_append, mergeInto_cons]

/-- Nodes that are pushed one behind the other are merged. -/
theorem reverse_foldl_push (ns : List VNode) :
    (ns.foldl push []).reverse = ns.foldr mergeInto [] := by
  have hconcat (ns : List VNode) (n : VNode) :
      ns.foldr mergeInto [n] = (push (ns.foldr mergeInto []).reverse n).reverse := by
    induction ns with
    | nil => rfl
    | cons m ns ih => rw [List.foldr_cons, List.foldr_cons, ih, mergeInto_push]
  induction ns using List.reverseRecOn with
  | nil => rfl
  | append_singleton ns n ih =>
      rw [List.foldl_append, List.foldl_cons, List.foldl_nil, List.foldr_append, List.foldr_cons,
        List.foldr_nil]
      have hsingle : mergeInto n [] = [n] := by rcases n with _ | s <;> rfl
      rw [hsingle, hconcat, ← ih, List.reverse_reverse]

end VNode

/-! ### Building from events -/

namespace TreeBuilder

/-- Attributes of the innermost element are written one after the other. -/
theorem foldlM_attributes (entries : List (String × String)) (roots : List VNode)
    (e : OpenElement) (es : List OpenElement) :
    (entries.map fun a => Event.attribute a.1 a.2).foldlM step ⟨roots, e :: es⟩ =
      .ok ⟨roots, { e with
        attributes := entries.foldl (fun m a => m.insert a.1 a.2) e.attributes } :: es⟩ := by
  induction entries generalizing e with
  | nil => rfl
  | cons a rest ih =>
      rw [List.map_cons, List.foldlM_cons]
      exact ih { e with attributes := e.attributes.insert a.1 a.2 }

/-- Nodes are pushed into the innermost element. -/
theorem foldl_push_open (ns : List VNode) (roots : List VNode) (e : OpenElement)
    (es : List OpenElement) :
    ns.foldl push ⟨roots, e :: es⟩ =
      ⟨roots, { e with children := ns.foldl VNode.push e.children } :: es⟩ := by
  induction ns generalizing e with
  | nil => rfl
  | cons n rest ih => exact ih { e with children := VNode.push e.children n }

/-- Nodes are pushed to the top outside of any element. -/
theorem foldl_push_roots (ns : List VNode) (roots : List VNode) :
    ns.foldl push ⟨roots, []⟩ = ⟨ns.foldl VNode.push roots, []⟩ := by
  induction ns generalizing roots with
  | nil => rfl
  | cons n rest ih => exact ih (VNode.push roots n)

mutual

/-- The events of a node build the node, with its adjacent texts merged. -/
theorem foldlM_events (n : VNode) (b : TreeBuilder) :
    n.events.foldlM step b = .ok (b.push n.merged) := by
  cases n with
  | text s => rfl
  | element tag attributes children =>
      obtain ⟨roots, es⟩ := b
      have hattributes := foldlM_attributes attributes.toList roots ⟨tag, .empty, []⟩ es
      have hofList : attributes.toList.foldl (fun m a => m.insert a.1 a.2) .empty = attributes :=
        OrderedMap.ofList_toList attributes
      have hchildren := foldlM_listEvents children ⟨roots, ⟨tag, attributes, []⟩ :: es⟩
      rw [foldl_push_open] at hchildren
      have hmerged : ((children.map VNode.merged).foldl VNode.push []).reverse =
          VNode.mergedList children := by
        rw [VNode.reverse_foldl_push, ← VNode.mergedList_eq_foldr]
      rw [VNode.events, List.foldlM_cons]
      change ((attributes.toList.map fun a => Event.attribute a.1 a.2) ++ _).foldlM step
        ⟨roots, ⟨tag, .empty, []⟩ :: es⟩ = _
      rw [List.foldlM_append, hattributes]
      change (VNode.listEvents children ++ _).foldlM step ⟨roots, ⟨tag, _, []⟩ :: es⟩ = _
      rw [hofList, List.foldlM_append, hchildren]
      change [Event.closeElement tag].foldlM step
        ⟨roots, ⟨tag, attributes, (children.map VNode.merged).foldl VNode.push []⟩ :: es⟩ = _
      rw [List.foldlM_cons, step]
      simp only [if_true, OpenElement.node, hmerged, VNode.merged]
      rfl

/-- **The events of nodes build the nodes**, with their adjacent texts merged. -/
theorem foldlM_listEvents (ns : List VNode) (b : TreeBuilder) :
    (VNode.listEvents ns).foldlM step b = .ok ((ns.map VNode.merged).foldl push b) := by
  cases ns with
  | nil => rfl
  | cons n ns =>
      rw [VNode.listEvents, List.foldlM_append, foldlM_events n b]
      exact foldlM_listEvents ns (b.push n.merged)

end

/-- At the top, the events of nodes build the merged list. -/
theorem finish_foldl_push (ns : List VNode) :
    ((ns.map VNode.merged).foldl push empty).finish = .ok (VNode.mergedList ns) := by
  rw [empty, foldl_push_roots, finish]
  simp only [VNode.reverse_foldl_push, VNode.mergedList_eq_foldr]

/-- The beginning of events that can be built from can be built from. -/
theorem foldlM_prefix {events more : List Event} {b b' : TreeBuilder} (h : events <+: more)
    (hmore : more.foldlM step b = .ok b') : ∃ b'', events.foldlM step b = .ok b'' := by
  obtain ⟨rest, rfl⟩ := h
  rw [List.foldlM_append] at hmore
  cases hevents : events.foldlM step b with
  | error e => rw [hevents] at hmore; exact absurd hmore (by simp [bind, Except.bind])
  | ok b'' => exact ⟨b'', rfl⟩

end TreeBuilder

end TwinRender
