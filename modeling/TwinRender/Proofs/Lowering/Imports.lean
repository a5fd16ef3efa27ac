import TwinRender.Lowering

/-!
# The helpers of the two targets

The two programs of a template differ in one helper only: the server escapes what it writes, and the
client has nothing to escape. A helper is listed where it is used first, so what was used before
decides whether a use is listed; but leaving one helper out does not change the order of the others.

## Main definitions

* `Fragment.without`: a fragment without one of its helpers.
* `TwinCode`: what is lowered for the two targets is the same but for escaping.

## Main results

* `Helper.filter_union`: helpers may be left out before or after they are put together.
* `lowerNodes_client`: the client's fragment of nodes is the server's without escaping.
* `compile_client`: the client's program of a template is the server's without escaping.
* `lowerNodes_target`: **lowering depends on the target in nothing but the helper for escaping**.
-/

namespace TwinRender

open Template (Node Fault)

/-! ### Helpers that are left out -/

namespace Helper

/-- Helpers may be left out before or after they are put together. -/
theorem filter_union (p : Helper → Bool) (used more : List Helper) :
    (union used more).filter p = union (used.filter p) (more.filter p) := by
  induction more generalizing used with
  | nil => rfl
  | cons h rest ih =>
      -- one more helper, put behind those in use unless it is among them
      have hstep : (union used (h :: rest)) = union (union used [h]) rest := rfl
      rw [hstep, ih]
      cases hp : p h with
      | false =>
          have hused : (union used [h]).filter p = used.filter p := by
            change (if used.contains h then used else used ++ [h]).filter p = _
            split
            · rfl
            · rw [List.filter_append, List.filter_cons_of_neg (by simp [hp]), List.filter_nil,
                List.append_nil]
          rw [hused, List.filter_cons_of_neg (by simp [hp])]
      | true =>
          have hused : (union used [h]).filter p = union (used.filter p) [h] := by
            change (if used.contains h then used else used ++ [h]).filter p =
              if (used.filter p).contains h then used.filter p else used.filter p ++ [h]
            have hcontains : (used.filter p).contains h = used.contains h := by
              rw [Bool.eq_iff_iff, List.contains_iff_mem, List.contains_iff_mem, List.mem_filter]
              exact ⟨And.left, fun hmem => ⟨hmem, hp⟩⟩
            rw [hcontains]
            split
            · rfl
            · rw [List.filter_append, List.filter_cons_of_pos hp, List.filter_nil]
          rw [hused, List.filter_cons_of_pos hp]
          rfl

end Helper

namespace Fragment

/-- A fragment without one of its helpers. -/
def without (h : Helper) (f : Fragment) : Fragment := ⟨f.instructions, f.imports.filter (· != h)⟩

/-- A helper is left out of each of two fragments. -/
theorem without_append (h : Helper) (a b : Fragment) :
    (a ++ b).without h = a.without h ++ b.without h := by
  have himports : (Helper.union a.imports b.imports).filter (· != h) =
      Helper.union (a.imports.filter (· != h)) (b.imports.filter (· != h)) :=
    Helper.filter_union (· != h) a.imports b.imports
  exact congrArg (Fragment.mk (a.instructions ++ b.instructions)) himports

/-- Instructions are not left out. -/
theorem length_without (h : Helper) (f : Fragment) : (f.without h).length = f.length := rfl

/-- A single instruction has no helpers. -/
theorem without_instruction (h : Helper) (i : Instruction) :
    (instruction i).without h = instruction i := rfl

/-- Another helper is not left out. -/
theorem without_helper_of_ne {h used : Helper} (hne : used ≠ h) (needed : Bool) :
    (helper needed used).without h = helper needed used := by
  cases needed with
  | false => rfl
  | true => simp [without, helper, hne]

/-- A helper that is left out is not there. -/
theorem without_helper_self (h : Helper) (needed : Bool) :
    (helper needed h).without h = helper false h := by
  cases needed with
  | false => rfl
  | true => simp [without, helper]

end Fragment

open Fragment (helper instruction)

/-! ### Lowering for either target -/

namespace Context

/-- The same place in a program for the server. -/
def onServer (c : Context) : Context := { c with target := .server }

/-- The same place in a program for the client. -/
def onClient (c : Context) : Context := { c with target := .client }

end Context

/-- The client's fragment of an attribute is the server's without escaping. -/
theorem lowerAttribute_client (c : Context) (a : Template.Attribute) :
    lowerAttribute c.onClient a = (lowerAttribute c.onServer a).without .escape := by
  rw [lowerAttribute, lowerAttribute]
  cases attributeSource a.name.toLower a.value with
  | none => rfl
  | some source =>
      have hkind : (if Text.sameIgnoringCase a.name "style" then Helper.style else .attribute) ≠
          .escape := by
        split
        · decide
        · decide
      simp only [Fragment.without_append, Fragment.without_helper_of_ne hkind,
        Fragment.without_helper_self, Fragment.without_instruction]
      rfl

/-- The client's fragments of attributes are the server's without escaping. -/
theorem lowerAttributes_client (c : Context) (attributes : List Template.Attribute) :
    lowerAttributes c.onClient attributes =
      (lowerAttributes c.onServer attributes).without .escape := by
  induction attributes with
  | nil => rfl
  | cons a rest ih =>
      rw [lowerAttributes, lowerAttributes, Fragment.without_append, lowerAttribute_client, ih]

/-- The client's fragment of a text is the server's without escaping. -/
theorem lowerText_client (c : Context) (value : Template.TextValue) :
    lowerText c.onClient value = (lowerText c.onServer value).without .escape := by
  rw [lowerText, lowerText]
  cases hlast : c.lastInRun with
  | false =>
      simp only [Context.onClient, Context.onServer, hlast, Fragment.without_append,
        Fragment.without_helper_of_ne (show Helper.content ≠ .escape by decide),
        Fragment.without_instruction]
      rfl
  | true =>
      simp only [Context.onClient, Context.onServer, hlast, Fragment.without_append,
        Fragment.without_helper_of_ne (show Helper.content ≠ .escape by decide),
        Fragment.without_helper_self, Fragment.without_instruction, if_true]
      rfl

/-- A branch of the client is one of the server without escaping, if its bodies are. -/
theorem branchFragment_without (condition : Expression) (negated : Bool)
    (consequent alternate : Fragment) :
    branchFragment condition negated (consequent.without .escape) (alternate.without .escape) =
      (branchFragment condition negated consequent alternate).without .escape := by
  rw [branchFragment, branchFragment, Fragment.without_append, Fragment.without_append,
    Fragment.without_append, Fragment.without_helper_of_ne (by decide), Fragment.length_without,
    Fragment.length_without, Fragment.without_instruction]

/-- What is made of a result is known from what is made of another one. -/
theorem bind_map_eq {α β γ δ : Type} {a : Except Fault α} {φ : α → β} {ψ : γ → δ}
    {k : α → Except Fault γ} {l : β → Except Fault δ} (h : ∀ f, l (φ f) = (k f).map ψ) :
    (a.map φ >>= l) = (a >>= k).map ψ := by
  cases a with
  | error e => rfl
  | ok f => exact h f

mutual

/-- The client's fragment of a node is the server's without escaping. -/
theorem lowerNode_client (c : Context) (n : Node) :
    lowerNode c.onClient n = (lowerNode c.onServer n).map (Fragment.without .escape) := by
  cases n with
  | element tag attributes children location =>
      have hwhole (content : Fragment) :
          instruction (.openElement tag.toLower) ++
              (lowerAttributes c.onServer attributes).without .escape ++ content.without .escape ++
              instruction (.closeElement tag.toLower) =
            (instruction (.openElement tag.toLower) ++ lowerAttributes c.onServer attributes ++
              content ++ instruction (.closeElement tag.toLower)).without .escape := by
        rw [Fragment.without_append, Fragment.without_append, Fragment.without_append,
          Fragment.without_instruction, Fragment.without_instruction]
      rw [lowerNode, lowerNode, lowerAttributes_client]
      split
      · exact congrArg Except.ok (hwhole .empty)
      · have hchildren := lowerNodes_client (c.within tag) children
        refine (congrArg (· >>= _) hchildren).trans (bind_map_eq fun f => ?_)
        exact congrArg Except.ok (hwhole f)
  | text value location =>
      rw [lowerNode, lowerNode, lowerText_client]
      rfl
  | expression value location =>
      rw [lowerNode, lowerNode, lowerText_client]
      rfl
  | slot name fallback location =>
      have hslot (name : Option String) (f : Fragment) :
          helper true .slot ++ instruction (.projectSlot name (f.without .escape).length) ++
              f.without .escape =
            (helper true .slot ++ instruction (.projectSlot name f.length) ++ f).without
              .escape := by
        rw [Fragment.without_append, Fragment.without_append,
          Fragment.without_helper_of_ne (by decide), Fragment.without_instruction,
          Fragment.length_without]
      rcases name with _ | ⟨name | e | _⟩
      · rw [lowerNode, lowerNode, lowerNodes_client c fallback]
        exact bind_map_eq fun f => congrArg Except.ok (hslot none f)
      · rw [lowerNode, lowerNode, lowerNodes_client c fallback]
        exact bind_map_eq fun f => congrArg Except.ok (hslot (some name) f)
      · rw [lowerNode, lowerNode]
        rfl
      · rw [lowerNode, lowerNode]
        rfl
  | cond condition negated children location =>
      rw [lowerNode, lowerNode, lowerNodes_client c children]
      exact bind_map_eq fun f =>
        congrArg Except.ok (branchFragment_without condition negated f .empty)
  | chain branches location =>
      rw [lowerNode, lowerNode, lowerChain_client c branches]
  | each collection item index children location =>
      rw [lowerNode, lowerNode, lowerNodes_client c children]
      refine bind_map_eq fun f => congrArg Except.ok ?_
      rw [Fragment.without_append, Fragment.without_append,
        Fragment.without_helper_of_ne (by decide), Fragment.without_instruction,
        Fragment.length_without]

/-- **The client's fragment of nodes is the server's without escaping.** -/
theorem lowerNodes_client (c : Context) (ns : List Node) :
    lowerNodes c.onClient ns = (lowerNodes c.onServer ns).map (Fragment.without .escape) := by
  cases ns with
  | nil =>
      rw [lowerNodes, lowerNodes]
      rfl
  | cons n ns =>
      have hfirst := lowerNode_client (c.position !(ns.head?.any Node.isTextLike)) n
      rw [lowerNodes, lowerNodes]
      refine (congrArg (· >>= _) hfirst).trans (bind_map_eq fun f => ?_)
      rw [lowerNodes_client c ns]
      refine bind_map_eq fun g => congrArg Except.ok ?_
      rw [Fragment.without_append]

/-- The client's fragment of a chain is the server's without escaping. -/
theorem lowerChain_client (c : Context) (branches : List (Option Expression × List Node)) :
    lowerChain c.onClient branches =
      (lowerChain c.onServer branches).map (Fragment.without .escape) := by
  cases branches with
  | nil =>
      rw [lowerChain, lowerChain]
      rfl
  | cons branch rest =>
      obtain ⟨condition, children⟩ := branch
      rw [lowerChain, lowerChain, lowerChain_client c rest, lowerNodes_client c children]
      refine bind_map_eq fun alternate => bind_map_eq fun body => ?_
      cases condition with
      | some condition =>
          exact congrArg Except.ok (branchFragment_without condition false body alternate)
      | none => rfl

end

/-! ### Programs -/

/-- The client's program of a template is the server's without escaping. -/
theorem compile_client (t : Template) (o : CompileOptions) :
    compile t .client o = (compile t .server o).map fun p =>
      ⟨p.name, .client, p.instructions, p.imports.filter (· != .escape)⟩ := by
  rw [compile, compile]
  cases t.validate with
  | error fault => rfl
  | ok _ =>
      have hbody : lowerNodes (.root .client o) t.nodes =
          (lowerNodes (.root .server o) t.nodes).map (Fragment.without .escape) :=
        lowerNodes_client (.root .server o) t.nodes
      rw [hbody]
      exact bind_map_eq fun f => rfl

/-- What is lowered for the server and for the client is the same but for escaping. -/
structure TwinCode (server client : Except Fault Fragment) : Prop where
  /-- There are the same instructions, or there is the same fault at the same place. -/
  instructions : client.map Fragment.instructions = server.map Fragment.instructions
  /-- The client has the helpers of the server in their order, but for the one that escapes. -/
  imports : client.map Fragment.imports = server.map fun f => f.imports.filter (· != .escape)

/-- A result without escaping is the same but for escaping. -/
theorem TwinCode.without (server : Except Fault Fragment) :
    TwinCode server (server.map (Fragment.without .escape)) := by
  cases server with
  | error fault => exact ⟨rfl, rfl⟩
  | ok f => exact ⟨rfl, rfl⟩

/-- **Lowering depends on the target in nothing but the helper for escaping.** Anywhere in a
template, nodes that need not be valid are lowered for the client as for the server, and so is each
node on its own. -/
theorem lowerNodes_target (o : CompileOptions) (parent : Option String) (last : Bool) :
    (∀ ns, TwinCode (lowerNodes ⟨.server, o, parent, last⟩ ns)
        (lowerNodes ⟨.client, o, parent, last⟩ ns)) ∧
      ∀ n, TwinCode (lowerNode ⟨.server, o, parent, last⟩ n)
        (lowerNode ⟨.client, o, parent, last⟩ n) := by
  constructor
  · intro ns
    have hnodes : lowerNodes ⟨.client, o, parent, last⟩ ns = _ :=
      lowerNodes_client ⟨.server, o, parent, last⟩ ns
    rw [hnodes]
    exact .without _
  · intro n
    have hnode : lowerNode ⟨.client, o, parent, last⟩ n = _ :=
      lowerNode_client ⟨.server, o, parent, last⟩ n
    rw [hnode]
    exact .without _

end TwinRender
