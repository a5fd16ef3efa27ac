import TwinRender.Document.Parsed

/-!
# Documents under construction

The document of parsed nodes is built by a loop. It keeps the nodes that are still to be added on a
stack, each with the node that it is added below. A node that is taken from the stack is added, and
its children are put on the stack in reverse, so that they come before everything else. A node that
no document has is taken from the stack, and nothing else happens: its children are never seen.

## Main definitions

* `Markup.Node.payload?`, `Markup.Node.children` — what is added for a node, and what comes next;
* `Construction`, `Construction.next?`, `Construction.run` — the loop;
* `Document.construct`, `Document.read` — the documents that are built.
-/

namespace TwinRender

namespace Markup.Node

/-- What a node is in a document, where it can stand in one. Names are written in lower case. -/
def payload? : Node → Option Payload
  | element tag attributes _ => some (.element tag.toLower attributes.lowerKeys)
  | text s => some (.text s)
  | comment s => some (.comment s)
  | doctype _ => none
  | instruction _ _ => none
  | fragment _ => none

/-- The nodes below a node. -/
def children : Node → List Node
  | element _ _ children => children
  | text _ => []
  | comment _ => []
  | doctype _ => []
  | instruction _ _ => []
  | fragment children => children

mutual

/-- The number of nodes in a parsed tree. -/
def weight : Node → Nat
  | element _ _ children => listWeight children + 1
  | text _ => 1
  | comment _ => 1
  | doctype _ => 1
  | instruction _ _ => 1
  | fragment children => listWeight children + 1

/-- The number of nodes in some parsed trees. -/
def listWeight : List Node → Nat
  | [] => 0
  | n :: ns => n.weight + listWeight ns

end

/-- Besides a node, the nodes below it are counted. -/
theorem weight_eq (n : Node) : n.weight = listWeight n.children + 1 := by
  cases n <;> rfl

/-- The nodes in some trees and some more. -/
theorem listWeight_append (ns ms : List Node) :
    listWeight (ns ++ ms) = listWeight ns + listWeight ms := by
  induction ns with
  | nil => rw [List.nil_append, listWeight, Nat.zero_add]
  | cons n ns ih => rw [List.cons_append, listWeight, listWeight, ih, Nat.add_assoc]

end Markup.Node

/-- A document under construction. -/
structure Construction where
  /-- What is built so far. -/
  document : Document
  /-- The nodes that are still to be added, and where; the next one stands last. -/
  pending : Array (Markup.Node × NodeId)
  deriving Repr

namespace Construction

/-- The construction in which some nodes are added below a node, before all that was pending. -/
def prepend (c : Construction) (parent : NodeId) (nodes : List Markup.Node) : Construction :=
  { c with pending := c.pending ++ (nodes.reverse.map fun n => (n, parent)).toArray }

/-- The construction after the next node; none at the end. -/
def next? (c : Construction) : Option Construction :=
  c.pending.back?.map fun (node, parent) =>
    let c := { c with pending := c.pending.pop }
    match node.payload? with
    | none => c
    | some payload =>
      let grown := c.document.grow parent payload
      { c with document := grown.1 }.prepend grown.2 node.children

/-- The nodes that are still to be added, in order. -/
def toCome (c : Construction) : List (Markup.Node × NodeId) := c.pending.toList.reverse

/-- **What a step does.** The first node to come is added, and its children come next; or it is left
out with all that is below it. -/
theorem next?_cases {c c' : Construction} (h : c.next? = some c') :
    ∃ node parent rest, c.toCome = (node, parent) :: rest ∧
      (node.payload? = none ∧ c'.document = c.document ∧ c'.toCome = rest ∨
        ∃ payload, node.payload? = some payload ∧
          c'.document = (c.document.grow parent payload).1 ∧
          c'.toCome = node.children.map (fun n => (n, c.document.cells.size)) ++ rest) := by
  obtain ⟨⟨node, parent⟩, hlast, hstep⟩ := Option.map_eq_some_iff.mp h
  obtain ⟨pending, hpending⟩ := Array.back?_eq_some_iff.mp hlast
  have hpop : c.pending.pop = pending := by rw [hpending, Array.pop_push]
  refine ⟨node, parent, pending.toList.reverse, ?_, ?_⟩
  · rw [toCome, hpending, Array.toList_push, List.reverse_append]
    rfl
  · cases hpayload : node.payload? with
    | none =>
        simp only [hpayload, hpop] at hstep
        subst hstep
        exact Or.inl ⟨rfl, rfl, rfl⟩
    | some payload =>
        simp only [hpayload, hpop] at hstep
        subst hstep
        refine Or.inr ⟨payload, rfl, rfl, ?_⟩
        simp [toCome, prepend, Document.grow]

/-- At the end nothing is to come. -/
theorem toCome_of_next?_eq_none {c : Construction} (h : c.next? = none) : c.toCome = [] := by
  have hnone : c.pending = #[] := Array.back?_eq_none_iff.mp (Option.map_eq_none_iff.mp h)
  rw [toCome, hnone]
  rfl

/-- The number of nodes that are still to be seen. -/
def weight (c : Construction) : Nat := Markup.Node.listWeight (c.toCome.map Prod.fst)

/-- With every step there are fewer nodes to be seen. -/
theorem weight_next?_lt {c c' : Construction} (h : c.next? = some c') : c'.weight < c.weight := by
  obtain ⟨node, parent, rest, hcome, hstep⟩ := next?_cases h
  have hnode := node.weight_eq
  have hweight : c.weight = node.weight + Markup.Node.listWeight (rest.map Prod.fst) := by
    rw [weight, hcome, List.map_cons, Markup.Node.listWeight]
  rcases hstep with ⟨-, -, hrest⟩ | ⟨payload, -, -, hrest⟩
  · rw [hweight, weight, hrest]
    omega
  · have hchildren :
        (node.children.map fun n => (n, c.document.cells.size)).map Prod.fst = node.children := by
      rw [List.map_map]
      exact List.map_id _
    rw [hweight, weight, hrest, List.map_append, hchildren, Markup.Node.listWeight_append]
    omega

/-- The document when nothing is pending any more. -/
def run (c : Construction) : Document :=
  match h : c.next? with
  | none => c.document
  | some c' =>
    have : c'.weight < c.weight := weight_next?_lt h
    c'.run
termination_by c.weight

end Construction

namespace Document

/-- The document that is built of parsed nodes. -/
def construct (nodes : List Markup.Node) : Document :=
  (Construction.mk empty #[]).prepend root nodes |>.run

/-- The document that is built of markup. -/
def read (markup : String) : Document := construct (Markup.parse markup)

end Document

end TwinRender
