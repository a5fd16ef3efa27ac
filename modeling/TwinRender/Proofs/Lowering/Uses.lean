import TwinRender.Proofs.Lowering.Imports
import TwinRender.Proofs.Lowering.WellFormed
import TwinRender.Proofs.Names

/-!
# Imports are the helpers used

Which helpers an instruction needs can be read off the code: from the instruction, from the target,
and from the innermost element that is open before it, in which text may be written as it is. The
compiler never looks at the code for this. It puts the helpers of fragments together as it puts the
fragments together, the alternatives of a chain before its branches, and knows the element around a
text from the template, through directives and slots.

Both come to the same list: each helper once, where it is needed first.

## Main definitions

* `enclosing`: the elements that are open behind some code.
* `Instruction.Needs`, `Program.Needs`: the helpers that an instruction needs.
* `Program.ListsUses`: the imports of a program are the helpers that it needs, in their order.
* `Fragment.Lists`: a fragment has the helpers that its instructions need.

## Main results

* `Helper.pairwise_union`: helpers are listed where they are used first.
* `lowerNodes_lists`: lowered nodes have the helpers that they need.
* `compile_listsUses`: **the imports of a compiled program are the helpers that it uses**.
-/

namespace TwinRender

open Template (Node)

/-! ### Helpers of instructions -/

/-- The elements that are open behind an instruction, innermost first. -/
def Instruction.enclosing (tags : List String) : Instruction → List String
  | .openElement tag => tag :: tags
  | .closeElement _ => tags.tail
  | _ => tags

/-- The elements that are open behind some code, innermost first. -/
def enclosing (tags : List String) (code : List Instruction) : List String :=
  code.foldl Instruction.enclosing tags

/-- An instruction needs a helper, given the elements that are open before it. -/
inductive Instruction.Needs (target : Target) (tags : List String) : Instruction → Helper → Prop
  /-- The text of a value. -/
  | content (e : Expression) : Needs target tags (.bufferText (.computed e)) .content
  /-- The canonical form of a style. -/
  | style (e : Expression) : Needs target tags (.setStyle (some (.computed e))) .style
  /-- The canonical form of any other attribute. -/
  | attribute (name : String) (e : Expression) :
    Needs target tags (.setAttribute name (some (.computed e))) .attribute
  /-- Content from outside. -/
  | slot (name : Option String) (n : Nat) : Needs target tags (.projectSlot name n) .slot
  /-- Conditions. -/
  | branch (condition : Expression) (negated : Bool) (m n : Nat) :
    Needs target tags (.branch condition negated m n) .branch
  /-- Loops. -/
  | each (collection : Expression) (item : String) (index : Option String) (n : Nat) :
    Needs target tags (.iterate collection item index n) .each
  /-- Escaping of text. -/
  | escapeText (htarget : target = .server) (hscript : tags.head? ≠ some "script")
    (hstyle : tags.head? ≠ some "style") : Needs target tags .yieldText .escape
  /-- Escaping of attribute values. -/
  | escapeAttribute (htarget : target = .server) (name : String) (source : Source) :
    Needs target tags (.setAttribute name (some source)) .escape
  /-- Escaping of styles. -/
  | escapeStyle (htarget : target = .server) (source : Source) :
    Needs target tags (.setStyle (some source)) .escape

/-- The instruction at a place of a program needs a helper. -/
def Program.Needs (p : Program) (place : Nat) (h : Helper) : Prop :=
  ∃ before i after, p.instructions = before ++ i :: after ∧ before.length = place ∧
    i.Needs p.target (enclosing [] before) h

/-- The instruction at a place of a program is the first one that needs a helper. -/
structure Program.NeedsFirst (p : Program) (place : Nat) (h : Helper) : Prop where
  /-- It needs the helper. -/
  needs : p.Needs place h
  /-- No instruction before it does. -/
  not_needs : ∀ earlier < place, ¬ p.Needs earlier h

/-- The imports of a program are the helpers that it needs, in the order of the instructions that
need them first. An instruction that is the first to need two helpers needs the canonical form of a
value before it is escaped. -/
structure Program.ListsUses (p : Program) : Prop where
  /-- A helper is imported if an instruction needs it. -/
  mem_iff : ∀ h, h ∈ p.imports ↔ ∃ place, p.Needs place h
  /-- No helper is imported twice. -/
  nodup : p.imports.Nodup
  /-- Helpers are imported in the order in which they are needed first. -/
  order : p.imports.Pairwise fun h h' => ∃ place place', p.NeedsFirst place h ∧
    p.NeedsFirst place' h' ∧
      (place < place' ∨ place = place' ∧ (h = .style ∨ h = .attribute) ∧ h' = .escape)

/-- The helpers of an attribute: what makes the value canonical, then what escapes it. -/
def AttributeSource.helpers (target : Target) (normalizer : Helper) (source : AttributeSource) :
    List Helper :=
  (match source with
    | some (.computed _) => [normalizer]
    | _ => []) ++ if target = .server ∧ source.isSome then [.escape] else []

/-- The helpers of an instruction in order, given the elements that are open before it. -/
def Instruction.helpers (target : Target) (tags : List String) : Instruction → List Helper
  | .bufferText (.computed _) => [.content]
  | .yieldText =>
    if target = .server ∧ tags.head? ≠ some "script" ∧ tags.head? ≠ some "style" then [.escape]
    else []
  | .setAttribute _ source => source.helpers target .attribute
  | .setStyle source => source.helpers target .style
  | .projectSlot _ _ => [.slot]
  | .branch _ _ _ _ => [.branch]
  | .iterate _ _ _ _ => [.each]
  | .openElement _ | .closeElement _ | .bufferText (.fixed _) => []

/-- The helpers of some code, use by use. -/
def helpersOf (target : Target) (tags : List String) : List Instruction → List Helper
  | [] => []
  | i :: rest => i.helpers target tags ++ helpersOf target (i.enclosing tags) rest

section

variable {target : Target} {tags : List String} {i : Instruction} {h h' : Helper}

/-- The helpers of an attribute are the ones that it needs. -/
theorem AttributeSource.mem_helpers {normalizer : Helper} {source : AttributeSource} :
    h ∈ source.helpers target normalizer ↔
      (∃ e, source = some (.computed e) ∧ h = normalizer) ∨
        target = .server ∧ source.isSome ∧ h = .escape := by
  rcases source with _ | _ | e
  · simp [helpers]
  · simp [helpers]
  · simp [helpers]

/-- The helpers of an instruction are the ones that it needs. -/
theorem Instruction.mem_helpers : h ∈ i.helpers target tags ↔ i.Needs target tags h := by
  constructor
  · intro hmem
    cases i with
    | openElement _ | closeElement _ => cases hmem
    | bufferText source =>
        cases source with
        | fixed _ => cases hmem
        | computed e => rw [List.mem_singleton.mp hmem]; exact .content e
    | yieldText =>
        rw [helpers] at hmem
        split at hmem
        · next hneeded =>
          rw [List.mem_singleton.mp hmem]
          exact .escapeText hneeded.1 hneeded.2.1 hneeded.2.2
        · cases hmem
    | setAttribute name source =>
        rcases AttributeSource.mem_helpers.mp hmem with ⟨e, rfl, rfl⟩ | ⟨htarget, hsome, rfl⟩
        · exact .attribute name e
        · obtain ⟨source, rfl⟩ := Option.isSome_iff_exists.mp hsome
          exact .escapeAttribute htarget name source
    | setStyle source =>
        rcases AttributeSource.mem_helpers.mp hmem with ⟨e, rfl, rfl⟩ | ⟨htarget, hsome, rfl⟩
        · exact .style e
        · obtain ⟨source, rfl⟩ := Option.isSome_iff_exists.mp hsome
          exact .escapeStyle htarget source
    | projectSlot name n => rw [List.mem_singleton.mp hmem]; exact .slot name n
    | branch condition negated m n =>
        rw [List.mem_singleton.mp hmem]; exact .branch condition negated m n
    | iterate collection item index n =>
        rw [List.mem_singleton.mp hmem]; exact .each collection item index n
  · intro hneeds
    cases hneeds with
    | content e | slot name n | branch condition negated m n | each collection item index n =>
        exact List.mem_singleton_self _
    | style e => exact AttributeSource.mem_helpers.mpr (.inl ⟨e, rfl, rfl⟩)
    | «attribute» name e => exact AttributeSource.mem_helpers.mpr (.inl ⟨e, rfl, rfl⟩)
    | escapeText htarget hscript hstyle =>
        rw [helpers, if_pos ⟨htarget, hscript, hstyle⟩]
        exact List.mem_singleton_self _
    | escapeAttribute htarget name source | escapeStyle htarget source =>
        exact AttributeSource.mem_helpers.mpr (.inr ⟨htarget, rfl, rfl⟩)

/-- The canonical form of a value is needed before it is escaped. -/
theorem AttributeSource.pairwise_helpers {normalizer : Helper} (source : AttributeSource)
    (hnormalizer : normalizer = .style ∨ normalizer = .attribute) :
    (source.helpers target normalizer).Pairwise fun h h' =>
      (h = .style ∨ h = .attribute) ∧ h' = .escape := by
  by_cases htarget : target = .server
  · rcases source with _ | _ | e <;> simp [helpers, htarget, hnormalizer]
  · rcases source with _ | _ | e <;> simp [helpers, htarget]

/-- An instruction with two helpers needs the canonical form of a value before it is escaped. -/
theorem Instruction.pairwise_helpers (i : Instruction) :
    (i.helpers target tags).Pairwise fun h h' => (h = .style ∨ h = .attribute) ∧ h' = .escape := by
  cases i with
  | setAttribute name source => exact source.pairwise_helpers (.inr rfl)
  | setStyle source => exact source.pairwise_helpers (.inl rfl)
  | bufferText source =>
      cases source with
      | fixed _ => exact .nil
      | computed _ => exact List.pairwise_singleton ..
  | yieldText =>
      rw [helpers]
      split
      · exact List.pairwise_singleton ..
      · exact .nil
  | openElement _ | closeElement _ => exact .nil
  | projectSlot _ _ | branch _ _ _ _ | iterate _ _ _ _ => exact List.pairwise_singleton ..

end

section

variable {target : Target} {tags : List String} {code : List Instruction} {h : Helper}

/-- The helpers of code behind other code. -/
theorem helpersOf_append (tags : List String) (a b : List Instruction) :
    helpersOf target tags (a ++ b) =
      helpersOf target tags a ++ helpersOf target (enclosing tags a) b := by
  induction a generalizing tags with
  | nil => rfl
  | cons i rest ih =>
      rw [List.cons_append, helpersOf, helpersOf, ih, List.append_assoc]
      rfl

/-- The helpers of some code are the ones of its instructions. -/
theorem mem_helpersOf : h ∈ helpersOf target tags code ↔
    ∃ before i after, code = before ++ i :: after ∧
      i.Needs target (enclosing tags before) h := by
  constructor
  · intro hmem
    induction code generalizing tags with
    | nil => cases hmem
    | cons i rest ih =>
        rw [helpersOf, List.mem_append] at hmem
        rcases hmem with hmem | hmem
        · exact ⟨[], i, rest, rfl, Instruction.mem_helpers.mp hmem⟩
        · obtain ⟨before, j, after, rfl, hneeds⟩ := ih hmem
          exact ⟨i :: before, j, after, rfl, hneeds⟩
  · rintro ⟨before, i, after, rfl, hneeds⟩
    rw [helpersOf_append, helpersOf, List.mem_append, List.mem_append]
    exact .inr (.inl (Instruction.mem_helpers.mpr hneeds))

/-- A use of a helper is a use by an instruction. -/
theorem helpersOf_eq_append_cons {first last : List Helper}
    (heq : helpersOf target tags code = first ++ h :: last) :
    ∃ before i after own others, code = before ++ i :: after ∧
      i.helpers target (enclosing tags before) = own ++ h :: others ∧
      first = helpersOf target tags before ++ own := by
  induction code generalizing tags first with
  | nil => simp [helpersOf] at heq
  | cons i rest ih =>
      rw [helpersOf] at heq
      rcases List.append_eq_append_iff.mp heq with ⟨more, hfirst, hrest⟩ | ⟨more, hown, hlast⟩
      · -- the use is behind this instruction
        obtain ⟨before, j, after, own, others, rfl, hhelpers, rfl⟩ := ih hrest
        refine ⟨i :: before, j, after, own, others, rfl, hhelpers, ?_⟩
        rw [hfirst, helpersOf, List.append_assoc]
      · cases more with
        | nil =>
            -- the use is right behind this instruction
            have hrest : helpersOf target (i.enclosing tags) rest = [] ++ h :: last := hlast.symm
            obtain ⟨before, j, after, own, others, rfl, hhelpers, hnil⟩ := ih hrest
            refine ⟨i :: before, j, after, own, others, rfl, hhelpers, ?_⟩
            rw [helpersOf, List.append_assoc, ← hnil, hown, List.append_nil, List.append_nil]
        | cons h' others =>
            obtain ⟨rfl, -⟩ := List.cons.inj hlast
            exact ⟨[], i, rest, first, others, rfl, hown, rfl⟩

end

/-! ### Lists without repetition -/

namespace Helper

/-- Helpers are put together one after the other. -/
theorem union_append (used a b : List Helper) : union used (a ++ b) = union (union used a) b :=
  List.foldl_append

/-- One more helper is listed unless it is there already. -/
theorem union_singleton (used : List Helper) (h : Helper) :
    union used [h] = if h ∈ used then used else used ++ [h] := by
  change (if used.contains h then used else used ++ [h]) = _
  simp only [List.contains_iff_mem]

/-- The helpers that are put together are all there. -/
theorem mem_union {h : Helper} {used more : List Helper} :
    h ∈ union used more ↔ h ∈ used ∨ h ∈ more := by
  induction more using List.reverseRecOn with
  | nil => simp [union]
  | append_singleton more h' ih =>
      rw [union_append, union_singleton, List.mem_append, List.mem_singleton, ← or_assoc, ← ih]
      split
      · next hmem =>
        refine ⟨.inl, ?_⟩
        rintro (h | rfl)
        · exact h
        · exact hmem
      · rw [List.mem_append, List.mem_singleton]

/-- No helper is listed twice. -/
theorem nodup_union (more : List Helper) : (union [] more).Nodup := by
  induction more using List.reverseRecOn with
  | nil => exact List.nodup_nil
  | append_singleton more h ih =>
      rw [union_append, union_singleton]
      split
      · exact ih
      · next hnew =>
        exact ih.append (List.nodup_singleton h) (List.disjoint_singleton.mpr hnew)

/-- Helpers that are put together may be put together before. -/
theorem union_union (used a b : List Helper) :
    union used (union a b) = union (union used a) b := by
  induction b using List.reverseRecOn with
  | nil => rfl
  | append_singleton b h ih =>
      rw [union_append, union_append, ← ih, union_singleton, union_singleton]
      split
      · next hmem => rw [if_pos (mem_union.mpr (.inr hmem))]
      · next hnew =>
        rw [union_append, union_singleton]

/-- **Helpers are listed where they are used first**: behind each of them, there are helpers that
have not been used before it. -/
theorem pairwise_union (more : List Helper) :
    (union [] more).Pairwise fun h h' => ∃ first last, more = first ++ h :: last ∧ h ∉ first ∧
      h' ∉ first ∧ h' ≠ h := by
  induction more using List.reverseRecOn with
  | nil => exact .nil
  | append_singleton more h' ih =>
      have hmore := ih.imp fun {h h''} ⟨first, last, heq, hrest⟩ =>
        show ∃ first last, more ++ [h'] = first ++ h :: last ∧ h ∉ first ∧ h'' ∉ first ∧
            h'' ≠ h from
          ⟨first, last ++ [h'], by rw [heq, List.append_assoc, List.cons_append], hrest⟩
      rw [union_append, union_singleton]
      split
      · exact hmore
      · next hnew =>
        refine List.pairwise_append.mpr ⟨hmore, List.pairwise_singleton .., fun h hh h'' hh'' => ?_⟩
        obtain rfl := List.mem_singleton.mp hh''
        have hmem : h ∈ more := by simpa using mem_union.mp hh
        obtain ⟨first, last, rfl, hfirst⟩ := List.eq_append_cons_of_mem hmem
        rw [mem_union] at hnew
        refine ⟨first, last ++ [h''], by rw [List.append_assoc, List.cons_append], hfirst, ?_, ?_⟩
        · exact fun hmem => hnew (.inr (List.mem_append_left _ hmem))
        · rintro rfl
          exact hnew (.inr hmem)

end Helper

/-! ### Programs -/

namespace Program

variable {p : Program} {h : Helper}

/-- A program needs a helper if it is among the helpers of its code. -/
theorem exists_needs_iff :
    (∃ place, p.Needs place h) ↔ h ∈ helpersOf p.target [] p.instructions := by
  rw [mem_helpersOf]
  constructor
  · rintro ⟨_, before, i, after, hcode, -, hneeds⟩
    exact ⟨before, i, after, hcode, hneeds⟩
  · rintro ⟨before, i, after, hcode, hneeds⟩
    exact ⟨before.length, before, i, after, hcode, rfl, hneeds⟩

/-- A helper that is needed is needed first somewhere. -/
theorem exists_needsFirst (hneeded : ∃ place, p.Needs place h) :
    ∃ place, p.NeedsFirst place h := by
  classical
  exact ⟨Nat.find hneeded, Nat.find_spec hneeded, fun _ => Nat.find_min hneeded⟩

/-- What is not among the helpers of the code before a place is not needed there. -/
theorem not_needs_of_not_mem {before after : List Instruction}
    (hcode : p.instructions = before ++ after) (hnew : h ∉ helpersOf p.target [] before)
    {earlier : Nat} (hlt : earlier < before.length) : ¬ p.Needs earlier h := by
  rintro ⟨first, i, last, heq, rfl, hneeds⟩
  rw [hcode] at heq
  rcases List.append_eq_append_iff.mp heq with ⟨more, rfl, -⟩ | ⟨more, rfl, hlast⟩
  · rw [List.length_append] at hlt
    omega
  · cases more with
    | nil =>
        rw [List.append_nil] at hlt
        exact Nat.lt_irrefl _ hlt
    | cons j more =>
        obtain ⟨rfl, -⟩ := List.cons.inj hlast
        exact hnew (mem_helpersOf.mpr ⟨first, i, more, rfl, hneeds⟩)

/-- **Helpers that are listed use by use, without repetition, are the ones that are needed, in their
order.** -/
theorem listsUses (himports : p.imports = Helper.union [] (helpersOf p.target [] p.instructions)) :
    p.ListsUses where
  mem_iff h := by
    rw [himports, Helper.mem_union, exists_needs_iff]
    exact or_iff_right List.not_mem_nil
  nodup := himports ▸ Helper.nodup_union _
  order := by
    rw [himports]
    have hlisted := Helper.pairwise_union (helpersOf p.target [] p.instructions)
    refine hlisted.imp_of_mem fun {h h'} hh hh' hfirst => ?_
    obtain ⟨first, last, hsplit, hnew, hnew', hne⟩ := hfirst
    obtain ⟨before, i, after, own, others, hcode, hhelpers, rfl⟩ := helpersOf_eq_append_cons hsplit
    rw [List.mem_append, not_or] at hnew hnew'
    have hneeds : p.NeedsFirst before.length h := by
      refine ⟨⟨before, i, after, hcode, rfl, ?_⟩, fun _ => not_needs_of_not_mem hcode hnew.1⟩
      rw [← Instruction.mem_helpers, hhelpers]
      exact List.mem_append_right _ (List.mem_cons_self ..)
    obtain ⟨place', hneeds'⟩ := exists_needsFirst (exists_needs_iff.mpr
      ((Helper.mem_union.mp hh').resolve_left List.not_mem_nil))
    have hle : before.length ≤ place' := by
      by_contra hlt
      exact not_needs_of_not_mem hcode hnew'.1 (Nat.lt_of_not_le hlt) hneeds'.needs
    refine ⟨before.length, place', hneeds, hneeds', hle.lt_or_eq.imp_right ?_⟩
    -- both are needed first by one instruction, and the second one is behind the first there
    rintro rfl
    refine ⟨rfl, ?_⟩
    obtain ⟨before', i', after', hcode', hlength, hneeded⟩ := hneeds'.needs
    obtain ⟨rfl, htail⟩ := List.append_inj (hcode'.symm.trans hcode) hlength
    obtain ⟨rfl, -⟩ := List.cons.inj htail
    have hmem : h' ∈ own ++ h :: others := hhelpers ▸ Instruction.mem_helpers.mpr hneeded
    have hothers : h' ∈ others := by simpa [hnew'.2, hne] using hmem
    have hpairs : (i'.helpers p.target (enclosing [] before')).Pairwise _ := i'.pairwise_helpers
    rw [hhelpers] at hpairs
    exact List.rel_of_pairwise_cons (List.pairwise_append.mp hpairs).2.1 hothers

end Program

/-! ### Lowering -/

/-- A fragment has the helpers that its instructions need behind some open elements, in the order of
their uses, and leaves these elements open. -/
structure Fragment.Lists (f : Fragment) (target : Target) (tags tags' : List String) : Prop where
  /-- The helpers. -/
  imports : f.imports = Helper.union [] (helpersOf target tags f.instructions)
  /-- The elements that are open behind it. -/
  enclosing : enclosing tags f.instructions = tags'

namespace Fragment.Lists

variable {target : Target} {tags tags' tags'' : List String} {a b : Fragment}

/-- No instructions. -/
theorem empty : Fragment.empty.Lists target tags tags := ⟨rfl, rfl⟩

/-- One fragment behind another. -/
theorem append (ha : a.Lists target tags tags') (hb : b.Lists target tags' tags'') :
    (a ++ b).Lists target tags tags'' := by
  obtain ⟨ha, rfl⟩ := ha
  obtain ⟨hb, rfl⟩ := hb
  refine ⟨?_, List.foldl_append⟩
  change Helper.union a.imports b.imports =
    Helper.union [] (helpersOf target tags (a.instructions ++ b.instructions))
  rw [ha, hb, helpersOf_append, Helper.union_append, Helper.union_union]
  rfl

/-- One instruction with its helpers. -/
theorem single {imports : List Helper} {i : Instruction}
    (h : imports = Helper.union [] (i.helpers target tags)) :
    (Fragment.mk [i] imports).Lists target tags (i.enclosing tags) := by
  refine ⟨?_, rfl⟩
  rw [h, helpersOf, helpersOf, List.append_nil]

/-- One instruction with its helpers, the last of which may be needed or not. -/
theorem helper_single {f : Fragment} {needed : Bool} {h : Helper} {i : Instruction}
    (hf : f.instructions = [])
    (hhelpers : Helper.union f.imports (if needed then [h] else []) =
      Helper.union [] (i.helpers target tags)) :
    (f ++ Fragment.helper needed h ++ Fragment.instruction i).Lists target tags
      (i.enclosing tags) := by
  obtain ⟨_, imports⟩ := f
  obtain rfl := hf
  exact single hhelpers

/-- One instruction with the helper that it needs. -/
theorem helper_instruction {needed : Bool} {h : Helper} {i : Instruction}
    (hhelpers : i.helpers target tags = if needed then [h] else []) :
    (Fragment.helper needed h ++ Fragment.instruction i).Lists target tags (i.enclosing tags) := by
  refine single ?_
  rw [hhelpers]
  cases needed <;> rfl

end Fragment.Lists

open Fragment (helper instruction)

/-- Whether text may be written as it is depends on the small letters of a tag only. -/
theorem Html.isRawText_eq (tag : String) :
    isRawText tag = decide (tag.toLower = "script" ∨ tag.toLower = "style") := by
  have hscript : "script".toLower = "script" := by cbv
  have hstyle : "style".toLower = "style" := by cbv
  rw [Bool.eq_iff_iff]
  simp [isRawText, rawTextNames, Text.sameIgnoringCase, hscript, hstyle]

/-- The element around a node in the code is the one around it in the template. -/
def Context.Knows (c : Context) (tags : List String) : Prop :=
  c.parent.map String.toLower = tags.head?

/-- A lowered attribute has the helpers that it needs. -/
theorem lowerAttribute_lists (c : Context) (a : Template.Attribute) (tags : List String) :
    (lowerAttribute c a).Lists c.target tags tags := by
  obtain ⟨target, options, parent, lastInRun⟩ := c
  rw [lowerAttribute]
  cases attributeSource a.name.toLower a.value with
  | none => exact .empty
  | some source =>
      cases Text.sameIgnoringCase a.name "style" <;> cases target <;> rcases source with _ | _ | e
      all_goals exact Fragment.Lists.helper_single rfl rfl

/-- Lowered attributes have the helpers that they need. -/
theorem lowerAttributes_lists (c : Context) (attributes : List Template.Attribute)
    (tags : List String) : (lowerAttributes c attributes).Lists c.target tags tags := by
  induction attributes with
  | nil => exact .empty
  | cons a rest ih => exact (lowerAttribute_lists c a tags).append ih

/-- A lowered text has the helpers that it needs. -/
theorem lowerText_lists {c : Context} {tags : List String} (hknows : c.Knows tags)
    (value : Template.TextValue) : (lowerText c value).Lists c.target tags tags := by
  have hbuffer (source : Source) (computed : Bool)
      (hcomputed : (Instruction.bufferText source).helpers c.target tags =
        if computed then [.content] else []) :
      (helper computed .content ++ instruction (.bufferText source)).Lists c.target tags tags :=
    .helper_instruction hcomputed
  have hraw : c.parent.any Html.isRawText =
      decide (tags.head? = some "script" ∨ tags.head? = some "style") := by
    rw [← hknows]
    cases c.parent with
    | none => rfl
    | some parent => simp [Html.isRawText_eq]
  have hyield : (helper (c.isServer && !c.parent.any Html.isRawText) .escape ++
      instruction .yieldText).Lists c.target tags tags := by
    refine Fragment.Lists.helper_instruction ?_
    rw [hraw, Instruction.helpers, Context.isServer]
    simp
  have hlast : (if c.lastInRun then
      helper (c.isServer && !c.parent.any Html.isRawText) .escape ++ instruction .yieldText
      else .empty).Lists c.target tags tags := by
    split
    · exact hyield
    · exact .empty
  rw [lowerText]
  cases textSource value with
  | fixed text => exact (hbuffer _ false rfl).append hlast
  | computed e => exact (hbuffer _ true rfl).append hlast

/-- A lowered branch has the helpers that it needs, given its lowered bodies. -/
theorem branchFragment_lists {target : Target} {tags : List String} (condition : Expression)
    (negated : Bool) {consequent alternate : Fragment}
    (hconsequent : consequent.Lists target tags tags)
    (halternate : alternate.Lists target tags tags) :
    (branchFragment condition negated consequent alternate).Lists target tags tags :=
  .append (.append (.helper_instruction rfl) hconsequent) halternate

mutual

/-- A lowered node has the helpers that it needs. -/
theorem lowerNode_lists {c : Context} {tags : List String} (hknows : c.Knows tags) (n : Node)
    {f : Fragment} (h : lowerNode c n = .ok f) : f.Lists c.target tags tags := by
  cases n with
  | text value location =>
      rw [lowerNode] at h
      obtain rfl := Except.ok.inj h
      exact lowerText_lists hknows value
  | expression e location =>
      rw [lowerNode] at h
      obtain rfl := Except.ok.inj h
      exact lowerText_lists hknows (.expression e)
  | element tag attributes children location =>
      obtain ⟨content, hlower, rfl⟩ := exists_of_lowerNode_element h
      have hcontent : content.Lists c.target (tag.toLower :: tags) (tag.toLower :: tags) := by
        rcases hlower with rfl | hlower
        · exact .empty
        · have hknown : (c.within tag).Knows (tag.toLower :: tags) := rfl
          exact lowerNodes_lists hknown children hlower
      have hattributes := lowerAttributes_lists c attributes (tag.toLower :: tags)
      exact .append (.append (.append (.single rfl) hattributes) hcontent) (.single rfl)
  | slot name fallback location =>
      obtain ⟨name, body, hbody, rfl⟩ := exists_of_lowerNode_slot h
      exact .append (.helper_instruction rfl) (lowerNodes_lists hknows fallback hbody)
  | cond condition negated children location =>
      rw [lowerNode] at h
      obtain ⟨body, hbody, hf⟩ := exists_of_bind_eq_ok h
      obtain rfl := Except.ok.inj hf
      exact branchFragment_lists condition negated (lowerNodes_lists hknows children hbody) .empty
  | chain branches location =>
      rw [lowerNode] at h
      exact lowerChain_lists hknows branches h
  | each collection item index children location =>
      rw [lowerNode] at h
      obtain ⟨body, hbody, hf⟩ := exists_of_bind_eq_ok h
      obtain rfl := Except.ok.inj hf
      exact .append (.helper_instruction rfl) (lowerNodes_lists hknows children hbody)

/-- **Lowered nodes have the helpers that they need**, in the order of their uses. -/
theorem lowerNodes_lists {c : Context} {tags : List String} (hknows : c.Knows tags) (ns : List Node)
    {f : Fragment} (h : lowerNodes c ns = .ok f) : f.Lists c.target tags tags := by
  cases ns with
  | nil =>
      rw [lowerNodes] at h
      obtain rfl := Except.ok.inj h
      exact .empty
  | cons n ns =>
      rw [lowerNodes] at h
      obtain ⟨first, hfirst, h⟩ := exists_of_bind_eq_ok h
      obtain ⟨others, hothers, hf⟩ := exists_of_bind_eq_ok h
      obtain rfl := Except.ok.inj hf
      exact .append (lowerNode_lists (c := c.position _) hknows n hfirst)
        (lowerNodes_lists hknows ns hothers)

/-- A lowered chain has the helpers that it needs. -/
theorem lowerChain_lists {c : Context} {tags : List String} (hknows : c.Knows tags)
    (branches : List (Option Expression × List Node)) {f : Fragment}
    (h : lowerChain c branches = .ok f) : f.Lists c.target tags tags := by
  cases branches with
  | nil =>
      rw [lowerChain] at h
      obtain rfl := Except.ok.inj h
      exact .empty
  | cons branch others =>
      obtain ⟨condition, children⟩ := branch
      rw [lowerChain] at h
      obtain ⟨alternate, halternate, h⟩ := exists_of_bind_eq_ok h
      obtain ⟨body, hbody, hf⟩ := exists_of_bind_eq_ok h
      cases condition with
      | none =>
          obtain rfl := Except.ok.inj hf
          exact lowerNodes_lists hknows children hbody
      | some condition =>
          obtain rfl := Except.ok.inj hf
          exact branchFragment_lists condition false (lowerNodes_lists hknows children hbody)
            (lowerChain_lists hknows others halternate)

end

/-- **The imports of a compiled program are the helpers that it uses.** A valid template is compiled
for each target, with any options, to a program that imports a helper just if one of its
instructions needs it, and lists the helpers in the order of the instructions that need them
first. -/
theorem compile_listsUses {t : Template} (hv : t.validate = .ok ()) (target : Target)
    (o : CompileOptions) :
    ∃ p, compile t target o = .ok p ∧ p.target = target ∧ p.ListsUses := by
  obtain ⟨p, hp, -⟩ := compile_shows hv target o
  have hcompile := hp
  rw [compile] at hcompile
  obtain ⟨_, -, hcompile⟩ := exists_of_bind_eq_ok hcompile
  obtain ⟨body, hbody, hprogram⟩ := exists_of_bind_eq_ok hcompile
  obtain rfl := Except.ok.inj hprogram
  have hknown : (Context.root target o).Knows [] := rfl
  exact ⟨_, hp, rfl, Program.listsUses (lowerNodes_lists hknown t.nodes hbody).imports⟩

/-- The list needs four helpers, and its program imports them in the order in which it needs them. -/
theorem compile_listsUses_list :
    listTemplate.validate = .ok () ∧
      (compile listTemplate .server .standard).map Program.imports =
        .ok [.each, .escape, .content, .slot] ∧
      ∃ p, compile listTemplate .server .standard = .ok p ∧ p.target = .server ∧ p.ListsUses :=
  ⟨validate_listTemplate, by cbv, compile_listsUses validate_listTemplate .server .standard⟩

end TwinRender
