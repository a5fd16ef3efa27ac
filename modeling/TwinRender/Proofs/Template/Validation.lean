import TwinRender.Proofs.Lowering.Correctness

/-!
# Rules for templates

A template is valid when every node in it, at any depth, follows the rules for nodes of its kind. Of
a template that is not valid one fault is reported: that of the first node in the order of the
document that breaks a rule, and of the rules that it breaks the first one, in the order in which
the rules for its kind are checked. A rule about attributes is broken by the first attribute that
does not follow it, and reported at the place of the attribute.

## Main definitions

* `Template.Node.nodes`: a node and all nodes below it, in the order of the document.
* `Template.Node.Breaks`: the rules, and the faults of a node that breaks them.
* `Template.Node.Reports`: the fault that is reported of a node.

## Main results

* `Template.Node.head?_ownFaults`: the first fault of a node is the one that is reported.
* `Template.Node.listFaults_eq_flatMap`: the faults of nodes are those of each node on its own.
* `Template.validate_reports_first`: **validation reports the first node that breaks a rule, and
  templates without such nodes are compiled**.
-/

namespace TwinRender.Template

namespace Node

/-! ### Nodes in the order of the document -/

mutual

/-- A node and all nodes below it, in the order of the document. -/
def nodes : Node → List Node
  | .element tag attributes children location =>
    .element tag attributes children location :: listNodes children
  | .text value location => [.text value location]
  | .expression value location => [.expression value location]
  | .slot name fallback location => .slot name fallback location :: listNodes fallback
  | .cond condition negated children location =>
    .cond condition negated children location :: listNodes children
  | .chain branches location => .chain branches location :: branchNodes branches
  | .each collection item index children location =>
    .each collection item index children location :: listNodes children

/-- Several nodes and all nodes below them, in the order of the document. -/
def listNodes : List Node → List Node
  | [] => []
  | n :: ns => n.nodes ++ listNodes ns

/-- The nodes in the branches of a chain, in the order of the document. -/
def branchNodes : List (Option Expression × List Node) → List Node
  | [] => []
  | (_, children) :: bs => listNodes children ++ branchNodes bs

end

end Node

/-! ### Rules -/

/-- The place of a rule among the rules for nodes of one kind. -/
def Violation.order : Violation → Nat
  | .invalidTag _ => 0
  | .duplicateAttribute _ _ => 1
  | .invalidAttribute _ _ => 2
  | .voidWithChildren _ => 3
  | .computedSlotName => 0
  | .emptyChain => 0
  | .misplacedElse _ => 1
  | .invalidBinding .item _ => 0
  | .invalidBinding .index _ => 1
  | .duplicateBinding _ => 2

namespace Node

/-- A node breaks a rule, and this is the fault. -/
inductive Breaks : Node → Fault → Prop
  /-- The tag of an element is a name. -/
  | invalidTag {tag : String} {attributes : List Attribute} {children : List Node}
    {location : Location} (h : Html.isTagName tag = false) :
    Breaks (.element tag attributes children location) ⟨location, .invalidTag tag⟩
  /-- No two attributes have the same name in lower case. -/
  | duplicateAttribute {tag : String} {attributes before after : List Attribute} {a : Attribute}
    {children : List Node} {location : Location} (hattributes : attributes = before ++ a :: after)
    (hbefore : (before.map fun b => b.name.toLower).Nodup)
    (h : ∃ b ∈ before, b.name.toLower = a.name.toLower) :
    Breaks (.element tag attributes children location)
      ⟨a.location, .duplicateAttribute tag a.name⟩
  /-- The name of every attribute is one. -/
  | invalidAttribute {tag : String} {attributes before after : List Attribute} {a : Attribute}
    {children : List Node} {location : Location} (hattributes : attributes = before ++ a :: after)
    (hbefore : ∀ b ∈ before, Html.isAttributeName b.name = true)
    (h : Html.isAttributeName a.name = false) :
    Breaks (.element tag attributes children location)
      ⟨a.location, .invalidAttribute tag a.name⟩
  /-- An element without content has no children. -/
  | voidWithChildren {tag : String} {attributes : List Attribute} {children : List Node}
    {location : Location} (hvoid : Html.isVoid tag = true) (h : children ≠ []) :
    Breaks (.element tag attributes children location) ⟨location, .voidWithChildren tag⟩
  /-- The name of a slot is a text. -/
  | computedSlotName {name : AttributeValue} {fallback : List Node} {location : Location}
    (h : ∀ text, name ≠ .literal text) :
    Breaks (.slot (some name) fallback location) ⟨location, .computedSlotName⟩
  /-- A chain has branches. -/
  | emptyChain {location : Location} : Breaks (.chain [] location) ⟨location, .emptyChain⟩
  /-- Only the last branch of a chain has no condition. -/
  | misplacedElse {branches before after : List (Option Expression × List Node)}
    {children : List Node} {location : Location}
    (hbranches : branches = before ++ (none, children) :: after)
    (hbefore : ∀ b ∈ before, b.1 ≠ none) (h : after ≠ []) :
    Breaks (.chain branches location) ⟨location, .misplacedElse before.length⟩
  /-- The item of a loop is bound to an identifier. -/
  | invalidItem {collection : Expression} {item : String} {index : Option String}
    {children : List Node} {location : Location} (h : Html.isIdentifier item = false) :
    Breaks (.each collection item index children location)
      ⟨location, .invalidBinding .item item⟩
  /-- The position of a loop is bound to an identifier, if it is bound. -/
  | invalidIndex {collection : Expression} {item index : String} {children : List Node}
    {location : Location} (h : Html.isIdentifier index = false) :
    Breaks (.each collection item (some index) children location)
      ⟨location, .invalidBinding .index index⟩
  /-- Item and position are bound to different identifiers. -/
  | duplicateBinding {collection : Expression} {item : String} {children : List Node}
    {location : Location} :
    Breaks (.each collection item (some item) children location)
      ⟨location, .duplicateBinding item⟩

/-- The fault that is reported of a node: of the rules that it breaks, the first one. -/
structure Reports (n : Node) (f : Fault) : Prop where
  /-- The node breaks a rule. -/
  breaks : n.Breaks f
  /-- It breaks no rule that is checked before. -/
  first : ∀ g, n.Breaks g → f.violation.order ≤ g.violation.order

/-! ### The faults of a node itself -/

/-- The faults of a node itself, rule by rule. -/
def ruleFaults : Node → List (List Fault)
  | .element tag attributes children location =>
    [if Html.isTagName tag then [] else [⟨location, .invalidTag tag⟩],
      (repeated [] attributes).map (fun a => ⟨a.location, .duplicateAttribute tag a.name⟩),
      (attributes.filter fun a => !Html.isAttributeName a.name).map
        (fun a => ⟨a.location, .invalidAttribute tag a.name⟩),
      if Html.isVoid tag && !children.isEmpty then [⟨location, .voidWithChildren tag⟩] else []]
  | .slot name _ location => [slotFaults name location]
  | .chain branches location =>
    [if branches.isEmpty then [⟨location, .emptyChain⟩] else [],
      match branches.findIdx? fun b => b.1.isNone with
      | some position =>
        if position + 1 = branches.length then [] else [⟨location, .misplacedElse position⟩]
      | none => []]
  | .each _ item index _ location =>
    [if Html.isIdentifier item then [] else [⟨location, .invalidBinding .item item⟩],
      match index with
      | some name =>
        if Html.isIdentifier name then [] else [⟨location, .invalidBinding .index name⟩]
      | none => [],
      match index with
      | some name => if name = item then [⟨location, .duplicateBinding item⟩] else []
      | none => []]
  | .text _ _ | .expression _ _ | .cond _ _ _ _ => []

/-- The faults of a node itself. -/
def ownFaults (n : Node) : List Fault := n.ruleFaults.flatten

/-- The faults of an element itself. -/
theorem ownFaults_element (tag : String) (attributes : List Attribute) (children : List Node)
    (location : Location) :
    (element tag attributes children location).ownFaults =
      elementFaults tag attributes (!children.isEmpty) location := by
  simp [ownFaults, ruleFaults, elementFaults]

/-- The faults of a chain itself. -/
theorem ownFaults_chain (branches : List (Option Expression × List Node)) (location : Location) :
    (chain branches location).ownFaults = chainFaults branches location := by
  cases branches with
  | nil => rfl
  | cons b bs =>
      simp only [ownFaults, ruleFaults, chainFaults, List.isEmpty_cons, Bool.false_eq_true,
        if_false]
      cases (b :: bs).findIdx? fun b => b.1.isNone with
      | none => rfl
      | some position => simp

/-- The faults of a loop itself. -/
theorem ownFaults_each (collection : Expression) (item : String) (index : Option String)
    (children : List Node) (location : Location) :
    (each collection item index children location).ownFaults =
      loopFaults item index location := by
  cases index with
  | none => simp [ownFaults, ruleFaults, loopFaults]
  | some name => simp [ownFaults, ruleFaults, loopFaults]

mutual

/-- The faults of a node and below it are those of each node on its own. -/
theorem faults_eq_flatMap (n : Node) : n.faults = n.nodes.flatMap ownFaults := by
  cases n with
  | element tag attributes children location =>
      rw [faults, nodes, List.flatMap_cons, ownFaults_element, listFaults_eq_flatMap children]
  | text value location => rfl
  | expression value location => rfl
  | slot name fallback location =>
      rw [faults, nodes, List.flatMap_cons, listFaults_eq_flatMap fallback]
      simp [ownFaults, ruleFaults]
  | cond condition negated children location =>
      rw [faults, nodes, List.flatMap_cons, listFaults_eq_flatMap children]
      rfl
  | chain branches location =>
      rw [faults, nodes, List.flatMap_cons, ownFaults_chain, branchFaults_eq_flatMap branches]
  | each collection item index children location =>
      rw [faults, nodes, List.flatMap_cons, ownFaults_each, listFaults_eq_flatMap children]

/-- **The faults of nodes are those of each node on its own**, in the order of the document. -/
theorem listFaults_eq_flatMap (ns : List Node) :
    listFaults ns = (listNodes ns).flatMap ownFaults := by
  cases ns with
  | nil => rfl
  | cons n ns =>
      rw [listFaults, listNodes, List.flatMap_append, faults_eq_flatMap n, listFaults_eq_flatMap ns]

/-- The faults in the branches of a chain are those of each node on its own. -/
theorem branchFaults_eq_flatMap (branches : List (Option Expression × List Node)) :
    branchFaults branches = (branchNodes branches).flatMap ownFaults := by
  cases branches with
  | nil => rfl
  | cons b bs =>
      obtain ⟨condition, children⟩ := b
      rw [branchFaults, branchNodes, List.flatMap_append, listFaults_eq_flatMap children,
        branchFaults_eq_flatMap bs]

end

/-! ### The first fault of a node -/

/-- The first of some faults that are given rule by rule. -/
theorem head?_flatten_iff {p : Fault → Prop} {rules : List (List Fault)}
    (h : ∀ i f, rules[i]?.bind List.head? = some f ↔ p f ∧ f.violation.order = i) (f : Fault) :
    rules.flatten.head? = some f ↔ p f ∧ ∀ g, p g → f.violation.order ≤ g.violation.order := by
  rw [List.head?_flatten, List.findSome?_eq_some_iff]
  constructor
  · rintro ⟨before, rule, after, rfl, hhead, hbefore⟩
    have hf : p f ∧ f.violation.order = before.length :=
      (h before.length f).mp (by simpa using hhead)
    refine ⟨hf.1, fun g hg => ?_⟩
    rw [hf.2]
    by_contra hlt
    rw [Nat.not_le] at hlt
    -- a rule that is broken before would have been reported
    have hearlier := (h g.violation.order g).mpr ⟨hg, rfl⟩
    rw [List.getElem?_append_left hlt, List.getElem?_eq_getElem hlt, Option.bind_some] at hearlier
    rw [hbefore _ (List.getElem_mem hlt)] at hearlier
    cases hearlier
  · rintro ⟨hf, hfirst⟩
    have hhead := (h f.violation.order f).mpr ⟨hf, rfl⟩
    obtain ⟨rule, hrule, hhead⟩ := Option.bind_eq_some_iff.mp hhead
    obtain ⟨hlt, rfl⟩ := List.getElem?_eq_some_iff.mp hrule
    refine ⟨rules.take f.violation.order, rules[f.violation.order],
      rules.drop (f.violation.order + 1), by simp, hhead, fun other hother => ?_⟩
    obtain ⟨i, hi, rfl⟩ := List.getElem_of_mem hother
    rw [List.length_take, lt_min_iff] at hi
    rw [List.getElem_take]
    by_contra hsome
    obtain ⟨g, hg⟩ := Option.ne_none_iff_exists'.mp hsome
    obtain ⟨hbreaks, horder⟩ := (h i g).mp (by rw [List.getElem?_eq_getElem hi.2]; exact hg)
    have := hfirst g hbreaks
    omega

/-- The first attribute whose name came before. -/
theorem head?_repeated {seen : List String} {attributes : List Attribute} {a : Attribute} :
    (repeated seen attributes).head? = some a ↔
      ∃ before after, attributes = before ++ a :: after ∧
        (before.map fun b => b.name.toLower).Nodup ∧ (∀ b ∈ before, b.name.toLower ∉ seen) ∧
        (a.name.toLower ∈ seen ∨ ∃ b ∈ before, b.name.toLower = a.name.toLower) := by
  induction attributes generalizing seen with
  | nil => simp [repeated]
  | cons c rest ih =>
      rw [repeated]
      by_cases hmem : seen.contains c.name.toLower = true
      · have hseen : c.name.toLower ∈ seen := by simpa using hmem
        rw [if_pos hmem, List.head?_cons, Option.some.injEq]
        constructor
        · rintro rfl
          exact ⟨[], rest, rfl, List.nodup_nil, by simp, Or.inl hseen⟩
        · rintro ⟨_ | ⟨b, before⟩, after, heq, -, hbefore, -⟩
          · exact (List.cons.inj heq).1
          · obtain ⟨rfl, -⟩ := List.cons.inj heq
            exact absurd hseen (hbefore c (List.mem_cons_self ..))
      · have hseen : c.name.toLower ∉ seen := by simpa using hmem
        rw [if_neg hmem, ih]
        constructor
        · rintro ⟨before, after, rfl, hnodup, hbefore, ha⟩
          simp only [List.mem_cons, not_or] at hbefore ha
          refine ⟨c :: before, after, rfl, ?_, ?_, ?_⟩
          · rw [List.map_cons, List.nodup_cons, List.mem_map]
            refine ⟨?_, hnodup⟩
            rintro ⟨b, hb, heq⟩
            exact (hbefore b hb).1 heq
          · rw [List.forall_mem_cons]
            exact ⟨hseen, fun b hb => (hbefore b hb).2⟩
          · rcases ha with (ha | ha) | ⟨b, hb, heq⟩
            · exact Or.inr ⟨c, List.mem_cons_self .., ha.symm⟩
            · exact Or.inl ha
            · exact Or.inr ⟨b, List.mem_cons_of_mem _ hb, heq⟩
        · rintro ⟨_ | ⟨b, before⟩, after, heq, hnodup, hbefore, ha⟩
          · obtain ⟨rfl, -⟩ := List.cons.inj heq
            exact absurd ha (by simpa using hseen)
          · obtain ⟨rfl, rfl⟩ := List.cons.inj heq
            rw [List.map_cons, List.nodup_cons, List.mem_map] at hnodup
            rw [List.forall_mem_cons] at hbefore
            refine ⟨before, after, rfl, hnodup.2, fun b hb => ?_, ?_⟩
            · rw [List.mem_cons, not_or]
              exact ⟨fun heq => hnodup.1 ⟨b, hb, heq⟩, hbefore.2 b hb⟩
            · rcases ha with ha | ⟨b, hb, hname⟩
              · exact Or.inl (List.mem_cons_of_mem _ ha)
              · rcases List.mem_cons.mp hb with rfl | hb
                · exact Or.inl (hname ▸ List.mem_cons_self ..)
                · exact Or.inr ⟨b, hb, hname⟩

/-- The first fault of a rule that is broken where a condition does not hold. -/
theorem head?_unless {c : Prop} [Decidable c] {f g : Fault} :
    (if c then [] else [g]).head? = some f ↔ ¬ c ∧ g = f := by
  by_cases hc : c
  · simp [hc]
  · simp [hc]

/-- The first fault of a rule that is broken where a condition holds. -/
theorem head?_when {c : Prop} [Decidable c] {f g : Fault} :
    (if c then [g] else []).head? = some f ↔ c ∧ g = f := by
  by_cases hc : c
  · simp [hc]
  · simp [hc]

/-- The rules for elements. -/
theorem head?_ruleFaults_element (tag : String) (attributes : List Attribute)
    (children : List Node) (location : Location) (i : Nat) (f : Fault) :
    (ruleFaults (.element tag attributes children location))[i]?.bind List.head? = some f ↔
      (element tag attributes children location).Breaks f ∧ f.violation.order = i := by
  constructor
  · rw [ruleFaults]
    intro h
    match i with
    | 0 =>
        obtain ⟨htag, rfl⟩ := head?_unless.mp h
        exact ⟨.invalidTag (by simpa using htag), rfl⟩
    | 1 =>
        rw [List.getElem?_cons_succ, List.getElem?_cons_zero, Option.bind_some, List.head?_map,
          Option.map_eq_some_iff] at h
        obtain ⟨a, ha, rfl⟩ := h
        obtain ⟨before, after, hattributes, hnodup, -, hname⟩ := head?_repeated.mp ha
        exact ⟨.duplicateAttribute hattributes hnodup (hname.resolve_left List.not_mem_nil), rfl⟩
    | 2 =>
        change ((attributes.filter _).map _).head? = _ at h
        rw [List.head?_map, List.head?_filter, Option.map_eq_some_iff] at h
        obtain ⟨a, ha, rfl⟩ := h
        obtain ⟨hname, before, after, hattributes, hbefore⟩ := List.find?_eq_some_iff_append.mp ha
        exact ⟨.invalidAttribute hattributes (fun b hb => by simpa using hbefore b hb)
          (by simpa using hname), rfl⟩
    | 3 =>
        obtain ⟨hvoid, rfl⟩ := head?_when.mp h
        rw [Bool.and_eq_true] at hvoid
        exact ⟨.voidWithChildren hvoid.1 (by simpa using hvoid.2), rfl⟩
    | i + 4 => cases h
  · rintro ⟨hbreaks, rfl⟩
    cases hbreaks with
    | invalidTag h => exact head?_unless.mpr ⟨by simp [h], rfl⟩
    | duplicateAttribute hattributes hbefore h =>
        have hfirst := (@head?_repeated [] _ _).mpr
          ⟨_, _, hattributes, hbefore, fun _ _ => List.not_mem_nil, Or.inr h⟩
        change ((repeated [] attributes).map _).head? = _
        rw [List.head?_map, hfirst]
        rfl
    | @invalidAttribute _ _ before after a _ _ hattributes hbefore h =>
        have hfirst : attributes.find? (fun a => !Html.isAttributeName a.name) = some a :=
          List.find?_eq_some_iff_append.mpr
            ⟨by simp [h], before, after, hattributes, fun b hb => by simp [hbefore b hb]⟩
        change ((attributes.filter _).map _).head? = _
        rw [List.head?_map, List.head?_filter, hfirst]
        rfl
    | voidWithChildren hvoid h => exact head?_when.mpr ⟨by simp [hvoid, h], rfl⟩

/-- The first branch without a condition stands before the last one. -/
theorem findIdx?_isNone_iff {branches : List (Option Expression × List Node)} {position : Nat} :
    (branches.findIdx? (fun b => b.1.isNone) = some position ∧ position + 1 ≠ branches.length) ↔
      ∃ before children after, branches = before ++ (none, children) :: after ∧
        (∀ b ∈ before, b.1 ≠ none) ∧ after ≠ [] ∧ before.length = position := by
  rw [List.findIdx?_eq_some_iff_getElem]
  constructor
  · rintro ⟨⟨hlt, hnone, hbefore⟩, hlast⟩
    refine ⟨branches.take position, branches[position].2, branches.drop (position + 1), ?_, ?_, ?_,
      ?_⟩
    · have hbranch : branches[position] = (none, branches[position].2) :=
        Prod.ext (Option.isNone_iff_eq_none.mp hnone) rfl
      rw [← hbranch]
      simp
    · intro b hb hb'
      obtain ⟨i, hi, rfl⟩ := List.getElem_of_mem hb
      rw [List.length_take, lt_min_iff] at hi
      rw [List.getElem_take] at hb'
      exact hbefore i hi.1 (Option.isNone_iff_eq_none.mpr hb')
    · rw [ne_eq, List.drop_eq_nil_iff]
      omega
    · rw [List.length_take]
      omega
  · rintro ⟨before, children, after, rfl, hbefore, hafter, rfl⟩
    refine ⟨⟨by simp, by simp, fun i hi => ?_⟩, ?_⟩
    · rw [List.getElem_append_left hi, Option.isNone_iff_eq_none]
      exact hbefore _ (List.getElem_mem hi)
    · have hpos := List.length_pos_of_ne_nil hafter
      rw [List.length_append, List.length_cons]
      omega

/-- The rules for chains. -/
theorem head?_ruleFaults_chain (branches : List (Option Expression × List Node))
    (location : Location) (i : Nat) (f : Fault) :
    (ruleFaults (.chain branches location))[i]?.bind List.head? = some f ↔
      (chain branches location).Breaks f ∧ f.violation.order = i := by
  constructor
  · rw [ruleFaults]
    intro h
    match i with
    | 0 =>
        cases branches with
        | nil =>
            obtain rfl := Option.some.inj h
            exact ⟨.emptyChain, rfl⟩
        | cons b bs => cases h
    | 1 =>
        rw [List.getElem?_cons_succ, List.getElem?_cons_zero, Option.bind_some] at h
        split at h
        · next position hposition =>
          obtain ⟨hlast, rfl⟩ := head?_unless.mp h
          obtain ⟨before, children, after, hbranches, hbefore, hafter, rfl⟩ :=
            findIdx?_isNone_iff.mp ⟨hposition, hlast⟩
          exact ⟨.misplacedElse hbranches hbefore hafter, rfl⟩
        · cases h
    | i + 2 => cases h
  · rintro ⟨hbreaks, rfl⟩
    cases hbreaks with
    | emptyChain => rfl
    | misplacedElse hbranches hbefore h =>
        obtain ⟨hposition, hlast⟩ :=
          findIdx?_isNone_iff.mpr ⟨_, _, _, hbranches, hbefore, h, rfl⟩
        simp only [ruleFaults, Violation.order, List.getElem?_cons_succ, List.getElem?_cons_zero,
          Option.bind_some, hposition]
        exact head?_unless.mpr ⟨hlast, rfl⟩

/-- The rules for loops. -/
theorem head?_ruleFaults_each (collection : Expression) (item : String) (index : Option String)
    (children : List Node) (location : Location) (i : Nat) (f : Fault) :
    (ruleFaults (.each collection item index children location))[i]?.bind List.head? = some f ↔
      (each collection item index children location).Breaks f ∧ f.violation.order = i := by
  constructor
  · intro h
    match i with
    | 0 =>
        obtain ⟨hitem, rfl⟩ := head?_unless.mp h
        exact ⟨.invalidItem (by simpa using hitem), rfl⟩
    | 1 =>
        cases index with
        | none => cases h
        | some name =>
            obtain ⟨hname, rfl⟩ := head?_unless.mp h
            exact ⟨.invalidIndex (by simpa using hname), rfl⟩
    | 2 =>
        cases index with
        | none => cases h
        | some name =>
            obtain ⟨rfl, rfl⟩ := head?_when.mp h
            exact ⟨.duplicateBinding, rfl⟩
    | i + 3 => cases h
  · rintro ⟨hbreaks, rfl⟩
    cases hbreaks with
    | invalidItem h => exact head?_unless.mpr ⟨by simp [h], rfl⟩
    | invalidIndex h => exact head?_unless.mpr ⟨by simp [h], rfl⟩
    | duplicateBinding => exact head?_when.mpr ⟨rfl, rfl⟩

/-- Rule by rule, the first fault of a node is what it is for the node to break the rule. -/
theorem head?_ruleFaults (n : Node) (i : Nat) (f : Fault) :
    n.ruleFaults[i]?.bind List.head? = some f ↔ n.Breaks f ∧ f.violation.order = i := by
  cases n with
  | element tag attributes children location =>
      exact head?_ruleFaults_element tag attributes children location i f
  | chain branches location => exact head?_ruleFaults_chain branches location i f
  | each collection item index children location =>
      exact head?_ruleFaults_each collection item index children location i f
  | slot name fallback location =>
      constructor
      · intro h
        match i with
        | 0 =>
            rcases name with _ | ⟨name | e | _⟩
            · cases h
            · cases h
            · cases h
              exact ⟨.computedSlotName fun _ => nofun, rfl⟩
            · cases h
              exact ⟨.computedSlotName fun _ => nofun, rfl⟩
        | i + 1 => cases h
      · rintro ⟨hbreaks, rfl⟩
        cases hbreaks with
        | @computedSlotName name _ _ h =>
            cases name with
            | literal text => exact absurd rfl (h text)
            | expression e => rfl
            | boolean => rfl
  | text value location | expression value location | cond condition negated children location =>
      constructor
      · intro h
        cases h
      · rintro ⟨hbreaks, -⟩
        cases hbreaks

/-- **The first fault of a node is the one that is reported.** -/
theorem head?_ownFaults (n : Node) (f : Fault) : n.ownFaults.head? = some f ↔ n.Reports f := by
  rw [ownFaults, head?_flatten_iff n.head?_ruleFaults]
  exact ⟨fun h => ⟨h.1, h.2⟩, fun h => ⟨h.breaks, h.first⟩⟩

/-- A node has no faults of its own exactly when it breaks no rule. -/
theorem ownFaults_eq_nil_iff (n : Node) : n.ownFaults = [] ↔ ∀ f, ¬ n.Breaks f := by
  constructor
  · intro h f hbreaks
    -- the rule that is broken has a fault, which is one of the node
    have hhead := (n.head?_ruleFaults f.violation.order f).mpr ⟨hbreaks, rfl⟩
    obtain ⟨rule, hrule, hhead⟩ := Option.bind_eq_some_iff.mp hhead
    have hnil := List.flatten_eq_nil_iff.mp h rule (List.mem_of_getElem? hrule)
    rw [hnil] at hhead
    cases hhead
  · intro h
    rw [← List.head?_eq_none_iff]
    by_contra hsome
    obtain ⟨f, hf⟩ := Option.ne_none_iff_exists'.mp hsome
    exact h f ((n.head?_ownFaults f).mp hf).breaks

end Node

/-! ### Templates -/

/-- A template is valid exactly when no node breaks a rule. -/
theorem validate_eq_ok_iff_follows (t : Template) :
    t.validate = .ok () ↔ ∀ n ∈ Node.listNodes t.nodes, ∀ f, ¬ n.Breaks f := by
  rw [validate_eq_ok_iff, faults, Node.listFaults_eq_flatMap, List.flatMap_eq_nil_iff]
  simp only [Node.ownFaults_eq_nil_iff]

/-- The fault of a template is the first one. -/
theorem validate_eq_error_iff_head? (t : Template) (f : Fault) :
    t.validate = .error f ↔ t.faults.head? = some f := by
  rw [validate]
  cases t.faults with
  | nil => simp
  | cons g rest => simp

/-- The fault of a template is the one that is reported of the first node that breaks a rule. -/
theorem validate_eq_error_iff_reports (t : Template) (f : Fault) :
    t.validate = .error f ↔
      ∃ before n after, Node.listNodes t.nodes = before ++ n :: after ∧
        (∀ m ∈ before, ∀ g, ¬ m.Breaks g) ∧ n.Reports f := by
  rw [validate_eq_error_iff_head?, faults, Node.listFaults_eq_flatMap, List.head?_flatMap,
    List.findSome?_eq_some_iff]
  simp only [Node.head?_ownFaults, List.head?_eq_none_iff, Node.ownFaults_eq_nil_iff]
  constructor
  · rintro ⟨before, n, after, heq, hn, hbefore⟩
    exact ⟨before, n, after, heq, hbefore, hn⟩
  · rintro ⟨before, n, after, heq, hbefore, hn⟩
    exact ⟨before, n, after, heq, hn, hbefore⟩

/-- A template is compiled, for any target, exactly when it is valid, and has the same fault if it
is not. -/
theorem compile_eq_error_iff (t : Template) (target : Target) (o : CompileOptions) (f : Fault) :
    compile t target o = .error f ↔ t.validate = .error f := by
  cases hv : t.validate with
  | ok _ =>
      obtain ⟨p, hp, -⟩ := compile_shows hv target o
      rw [hp]
      constructor
      · rintro ⟨⟩
      · rintro ⟨⟩
  | error g =>
      have hfails : compile t target o = .error g := by
        rw [compile, hv]
        rfl
      rw [hfails, Except.error.injEq, Except.error.injEq]

/-- **Validation reports the first node that breaks a rule, and templates without such nodes are
compiled.** A template is valid exactly when no node at any depth breaks a rule. Its fault is what
is reported of a node that breaks a rule, where none before it in the order of the document does.
For both targets the nodes of a valid template are lowered without a fault, and compiling fails
with the fault of the template and with no other one. -/
theorem validate_reports_first (t : Template) :
    (t.validate = .ok () ↔ ∀ n ∈ Node.listNodes t.nodes, ∀ f, ¬ n.Breaks f) ∧
      (∀ f, t.validate = .error f ↔
        ∃ before n after, Node.listNodes t.nodes = before ++ n :: after ∧
          (∀ m ∈ before, ∀ g, ¬ m.Breaks g) ∧ n.Reports f) ∧
      ∀ target o, (∀ f, compile t target o = .error f ↔ t.validate = .error f) ∧
        (t.validate = .ok () → ∃ body, lowerNodes (.root target o) t.nodes = .ok body) := by
  refine ⟨t.validate_eq_ok_iff_follows, t.validate_eq_error_iff_reports, fun target o =>
    ⟨t.compile_eq_error_iff target o, fun hv => ?_⟩⟩
  obtain ⟨body, hbody, -⟩ := lowerNodes_computes (.root target o) t.nodes
    (validate_eq_ok_iff.mp hv)
  exact ⟨body, hbody⟩

end TwinRender.Template
