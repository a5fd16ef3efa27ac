import TwinRender.Proofs.Markup.Building
import TwinRender.Proofs.VNode

/-!
# Elements that stay in place

A parser moves elements that stand where they must not: a block in a paragraph closes the
paragraph, a link in a link closes the link, a row belongs in a table. Of the elements here none is
moved, and none moves another one: their tags open and close them, or add them if they have no
content, and do nothing else.

## Main definitions

* `Markup.IsPhrasing`, `Markup.IsFlow`: elements that may stand in a paragraph, and others.
* `VNode.StaysInPlace`: an element that a parser leaves where it is written.
* `Markup.Brackets`, `Markup.KeepsPlace`: what the tags of such an element do.
* `VNode.StandIn`: trees that may stand where tree construction is.

## Main results

* `VNode.StandIn.keepsPlace`: **an element that may stand somewhere keeps its place**.
* `VNode.StandIn.inside`, `VNode.StandIn.behind`: children and siblings stay in place too.
-/

namespace TwinRender

open Markup (Spine Frame Node)

namespace Markup

/-- Elements that may stand in a paragraph, and that the parser leaves in place. -/
inductive IsPhrasing (tag : String) : Prop where
  /-- A part of a text. -/
  | span (h : tag = "span")
  /-- An element without content. -/
  | void (h : tag ∈ ["br", "img", "input", "wbr"])
  /-- An element that is defined elsewhere. -/
  | custom (h : '-' ∈ tag.toList)

/-- Elements that the parser leaves in place where no paragraph is open. -/
inductive IsFlow (tag : String) : Prop where
  /-- An element that may stand in a paragraph too. -/
  | phrasing (h : IsPhrasing tag)
  /-- A block. -/
  | block (h : tag ∈ ["div", "section", "article", "header", "footer", "main", "nav", "aside"])
  /-- Preformatted text. -/
  | preformatted (h : tag = "pre")

end Markup

open Markup (IsPhrasing IsFlow)

namespace VNode

/-- An element that the parser leaves in place: a paragraph without blocks, or another element. -/
inductive StaysInPlace (tag : String) (attributes : OrderedMap String) (children : List VNode) :
    Prop where
  /-- An element other than a paragraph. -/
  | flow (h : IsFlow tag)
  /-- A paragraph. -/
  | paragraph (htag : tag = "p") (h : AllElementsIn (fun tag _ _ => IsPhrasing tag) children)

end VNode

namespace Markup

open Builder (between)

variable {tag : String} {s : Spine} {f : Frame}

/-! ### Rules for tags -/

/-- A list of names without hyphens holds no tag with one. -/
theorem any_sameIgnoringCase_of_custom {names : List String}
    (hnames : (names.all fun name => !name.toLower.toList.contains '-') = true)
    (hlower : tag.toLower = tag) (h : '-' ∈ tag.toList) :
    names.any (Text.sameIgnoringCase tag) = false := by
  rw [List.any_eq_false]
  intro name hname hsame
  rw [Text.sameIgnoringCase_iff, hlower] at hsame
  have hnot := List.all_eq_true.mp hnames name hname
  rw [← hsame] at hnot
  simp [h] at hnot

/-- A table of names without hyphens has no rule for a tag with one. -/
theorem lookup_of_custom {β : Type} {rules : List (String × β)}
    (hrules : (rules.all fun rule => !rule.1.toList.contains '-') = true)
    (h : '-' ∈ tag.toList) : rules.lookup tag = none := by
  rw [List.lookup_eq_none_iff]
  intro rule hrule
  rw [bne_iff_ne]
  rintro rfl
  have hnot := List.all_eq_true.mp hrules rule hrule
  simp [h] at hnot

/-- An element that may stand in a paragraph has no raw text. -/
theorem IsPhrasing.escaped (h : IsPhrasing tag) (hlower : tag.toLower = tag) :
    Html.isRawText tag = false := by
  cases h with
  | span h =>
      subst h
      decide +kernel
  | void h =>
      have hall : ∀ tag ∈ ["br", "img", "input", "wbr"], Html.isRawText tag = false := by
        decide +kernel
      exact hall tag h
  | custom h => exact any_sameIgnoringCase_of_custom (by decide +kernel) hlower h

/-- An element that is left in place where no paragraph is open has no raw text. -/
theorem IsFlow.escaped (h : IsFlow tag) (hlower : tag.toLower = tag) :
    Html.isRawText tag = false := by
  cases h with
  | phrasing h => exact h.escaped hlower
  | block h =>
      have hall : ∀ tag ∈ ["div", "section", "article", "header", "footer", "main", "nav",
          "aside"], Html.isRawText tag = false := by decide +kernel
      exact hall tag h
  | preformatted h =>
      subst h
      decide +kernel

/-- The tags of an element open and close it, and do nothing else. -/
structure Brackets (tag : String) (s : Spine) : Prop where
  /-- What stands in it is part of the tree. -/
  content : tag ≠ "template"
  /-- Its start tag opens it. -/
  opens : ∀ (rs : List Recovery) (attributes : List (String × String)) (n : Nat) (skip : Bool),
    (between rs s n skip).take (.startTag ⟨tag, attributes, false⟩) =
      between rs (s.push ⟨n, .html, tag, .ofList attributes, true, false, []⟩) (n + 1)
        (Html.dropsLeadingNewline tag)
  /-- Its end tag closes it. -/
  closes : ∀ (f : Frame), f.IsOrdinary → f.name = tag →
    ∀ (rs : List Recovery) (n : Nat) (skip : Bool),
    (between rs (s.push f) n skip).take (.endTag tag) = between rs (s.attach f.finish false) n false

/-- Written where tree construction is, an element comes to stand where it was written. -/
inductive KeepsPlace (tag : String) (s : Spine) : Prop where
  /-- Its start tag adds it, and there is no end tag. -/
  | void (hvoid : Html.isVoid tag = true) (hrule : startRule tag = .void)
  /-- Its tags open and close it. -/
  | brackets (hvoid : Html.isVoid tag = false) (h : Brackets tag s)

/-- The tags of an ordinary element open and close it. -/
theorem Brackets.ordinary (hs : s.IsOrdinary) (hstart : startRule tag = .ordinary)
    (hend : endRule tag = .ordinary) (hdrops : Html.dropsLeadingNewline tag = false) :
    Brackets tag s where
  content := by
    rintro rfl
    exact absurd hstart (by decide +kernel)
  opens rs attributes n skip := by
    rw [hdrops]
    exact Builder.take_startTag_ordinary hs rfl hstart
  closes f hf hname rs n skip := by
    subst hname
    exact Builder.take_endTag_ordinary hs hf hend

/-- An element that may stand in a paragraph keeps its place anywhere. -/
theorem IsPhrasing.keepsPlace (h : IsPhrasing tag) (hlower : tag.toLower = tag)
    (hs : s.IsOrdinary) : KeepsPlace tag s := by
  cases h with
  | span h =>
      subst h
      exact .brackets (by decide +kernel)
        (.ordinary hs (by decide +kernel) (by decide +kernel) (by decide +kernel))
  | void h =>
      have hall : ∀ tag ∈ ["br", "img", "input", "wbr"],
          Html.isVoid tag = true ∧ startRule tag = .void := by decide +kernel
      exact .void (hall tag h).1 (hall tag h).2
  | custom h =>
      have hstart : startRule tag = .ordinary := by
        rw [startRule, lookup_of_custom (by decide +kernel) h]
        rfl
      have hend : endRule tag = .ordinary := by
        rw [endRule, lookup_of_custom (by decide +kernel) h]
        rfl
      exact .brackets (any_sameIgnoringCase_of_custom (by decide +kernel) hlower h)
        (.ordinary hs hstart hend (any_sameIgnoringCase_of_custom (by decide +kernel) hlower h))

/-- An element that the parser leaves in place by its name is no paragraph. -/
theorem IsFlow.ne_paragraph (h : IsFlow tag) : tag ≠ "p" := by
  rintro rfl
  cases h with
  | phrasing h =>
      cases h with
      | span h => exact absurd h (by decide)
      | void h => exact absurd h (by decide)
      | custom h => exact absurd h (by decide +kernel)
  | block h => exact absurd h (by decide)
  | preformatted h => exact absurd h (by decide)

/-- An element keeps its place where no paragraph is open. -/
theorem IsFlow.keepsPlace (h : IsFlow tag) (hlower : tag.toLower = tag) (hs : s.IsOrdinary)
    (hp : ∀ f ∈ s.frames, f.name ≠ "p") : KeepsPlace tag s := by
  cases h with
  | phrasing h => exact h.keepsPlace hlower hs
  | block h =>
      have hall : ∀ tag ∈ ["div", "section", "article", "header", "footer", "main", "nav",
          "aside"], Html.isVoid tag = false ∧ startRule tag = .block ∧ endRule tag = .block ∧
            Builder.impliedNames.contains tag = false ∧ tag ≠ "template" ∧
            Html.dropsLeadingNewline tag = false := by decide +kernel
      obtain ⟨hvoid, hstart, hend, himplied, hcontent, hdrops⟩ := hall tag h
      refine .brackets hvoid ⟨hcontent, fun rs attributes n skip => ?_, fun f hf hname rs n skip => ?_⟩
      · rw [hdrops]
        exact Builder.take_startTag_block hs rfl hp hstart
      · subst hname
        exact Builder.take_endTag_block hs hf hend himplied
  | preformatted h =>
      subst h
      have hstart : startRule "pre" = .preformatted := by decide +kernel
      have hend : endRule "pre" = .block := by decide +kernel
      have hdrops : Html.dropsLeadingNewline "pre" = true := by decide +kernel
      refine .brackets (by decide +kernel) ⟨by decide, fun rs attributes n skip => ?_,
        fun f hf hname rs n skip => ?_⟩
      · rw [hdrops]
        exact Builder.take_startTag_preformatted hs rfl hp hstart
      · rw [← hname] at hend ⊢
        exact Builder.take_endTag_block hs hf hend (by rw [hname]; decide +kernel)

/-- A paragraph keeps its place where no other one is open. -/
theorem keepsPlace_paragraph (hs : s.IsOrdinary) (hp : ∀ f ∈ s.frames, f.name ≠ "p") :
    KeepsPlace "p" s := by
  have hstart : startRule "p" = .block := by decide +kernel
  have hdrops : Html.dropsLeadingNewline "p" = false := by decide +kernel
  refine .brackets (by decide +kernel) ⟨by decide, fun rs attributes n skip => ?_,
    fun f hf hname rs n skip => ?_⟩
  · rw [hdrops]
    exact Builder.take_startTag_block hs rfl hp hstart
  · rw [← hname]
    exact Builder.take_endTag_paragraph hs hf hname

end Markup

namespace VNode

open Markup (KeepsPlace)

variable {tag : String} {attributes : OrderedMap String} {children ns : List VNode}
  {s : Spine} {f : Frame}

/-! ### Trees that stay in place -/

/-- An element that stays in place has no raw text. -/
theorem StaysInPlace.escaped (h : StaysInPlace tag attributes children)
    (hlower : tag.toLower = tag) : Html.isRawText tag = false := by
  cases h with
  | flow h => exact h.escaped hlower
  | paragraph htag _ =>
      subst htag
      decide +kernel

/-- Trees may stand where a builder is: they may stand in a paragraph, or none is open. -/
inductive StandIn (ns : List VNode) (s : Spine) : Prop where
  /-- They may stand in a paragraph. -/
  | phrasing (h : AllElementsIn (fun tag _ _ => IsPhrasing tag) ns)
  /-- No paragraph is open. -/
  | flow (h : AllElementsIn StaysInPlace ns) (hp : ∀ f ∈ s.frames, f.name ≠ "p")

/-- Trees may stand behind others. -/
theorem StandIn.behind {m : VNode} (h : StandIn (m :: ns) s) (node : Node) :
    StandIn ns (s.attach node false) := by
  cases h with
  | phrasing h => exact .phrasing h.2
  | flow h hp =>
      exact .flow h.2 (Spine.forall_mem_attach (q := fun f => f.name ≠ "p")
        (fun _ _ hf => hf) hp node)

/-- The children of an element may stand in it. -/
theorem StandIn.inside (h : StandIn (.element tag attributes children :: ns) s)
    (hf : f.name = tag) : StandIn children (s.push f) := by
  cases h with
  | phrasing h => exact .phrasing h.1.2
  | flow h hp =>
      cases h.1.1 with
      | paragraph _ hchildren => exact .phrasing hchildren
      | flow hflow =>
          exact .flow h.1.2 (List.forall_mem_cons.mpr ⟨by rw [hf]; exact hflow.ne_paragraph, hp⟩)

/-- **An element that may stand somewhere keeps its place.** -/
theorem StandIn.keepsPlace (h : StandIn (.element tag attributes children :: ns) s)
    (hlower : tag.toLower = tag) (hs : s.IsOrdinary) : KeepsPlace tag s := by
  cases h with
  | phrasing h => exact h.1.1.keepsPlace hlower hs
  | flow h hp =>
      cases h.1.1 with
      | flow h => exact h.keepsPlace hlower hs hp
      | paragraph htag _ =>
          subst htag
          exact Markup.keepsPlace_paragraph hs hp

end VNode

end TwinRender
