import TwinRender.Markup.Parser

/-!
# Building what was written

While markup is read that is written properly, the state of tree construction has three parts that
change: the tree, the number of the next element, and whether a line feed is dropped if it comes
next. This module says for each kind of token what it does to them. A character of text is put at
the end of the innermost element, a start tag opens an element or adds one without content, and an
end tag of the innermost element closes it.

## Main definitions

* `Markup.Builder.between`: the state between two tokens of such markup.
* `Markup.Frame.IsOrdinary`: an open element of such markup.

## Main results

* `Markup.Spine.pop_push`: closing an element puts it where it was opened.
* `Markup.Builder.take_char`, `Markup.Builder.take_startTag_ordinary` and the others of this kind:
  **what a token does**.
-/

namespace TwinRender.Markup

/-! ### Trees under construction -/

/-- An open element of ordinary markup, which is closed by name and stands where it was found. -/
structure Frame.IsOrdinary (f : Frame) : Prop where
  /-- It is no part of a drawing or formula. -/
  html : f.vocabulary = .html
  /-- It can be closed by name. -/
  listed : f.listed = true
  /-- It stands where it was found. -/
  unfostered : f.fostered = false
  /-- What stands in it is part of the tree. -/
  content : f.name ≠ "template"

/-- A new element has a name of its own only as far as names go. -/
theorem Frame.IsOrdinary.named {f : Frame} (hf : f.IsOrdinary) (name : String) :
    f.named name = (f.name == name) := by
  rw [Frame.named, hf.html]
  rfl

/-- Ordinary elements are among others by their names. -/
theorem Frame.IsOrdinary.among {f : Frame} (hf : f.IsOrdinary) (names : List String) :
    f.among names = names.contains f.name := by
  rw [Frame.among, hf.html]
  rfl

/-- A finished element holds its children in order. -/
theorem Frame.IsOrdinary.finish {f : Frame} (hf : f.IsOrdinary) :
    f.finish = .element f.name f.attributes f.children.reverse := by
  rw [Frame.finish, hf.named, if_neg]
  simpa using hf.content

/-- Texts that are put behind each other are one text. -/
theorem pushChild_text_text (s t : String) (children : List Node) :
    pushChild (.text t) (pushChild (.text s) children) = pushChild (.text (s ++ t)) children := by
  rcases children with _ | ⟨_ | u | _, rest⟩ <;> simp [pushChild, String.append_assoc]

/-- Finished children, the last one first, after some more. -/
def pushChildren (nodes children : List Node) : List Node :=
  nodes.foldl (fun children node => pushChild node children) children

namespace Spine

variable {s : Spine} {f : Frame} {node : Node} {p : Frame → Bool}

/-- All open elements are ordinary ones. -/
def IsOrdinary (s : Spine) : Prop := ∀ f ∈ s.frames, f.IsOrdinary

/-- A node that is put into the innermost element is put behind its children. -/
theorem attach_push (s : Spine) (f : Frame) (node : Node) :
    (s.push f).attach node false = s.push { f with children := pushChild node f.children } := rfl

/-- A node that is put outside all elements is put behind the outer nodes. -/
theorem attach_roots (roots : List Node) (node : Node) :
    (⟨[], roots⟩ : Spine).attach node false = ⟨[], pushChild node roots⟩ := rfl

/-- Texts that are put into their place one after the other are one text. -/
theorem attach_text_text (s : Spine) (a b : String) :
    (s.attach (.text a) false).attach (.text b) false = s.attach (.text (a ++ b)) false := by
  obtain ⟨_ | ⟨f, fs⟩, roots⟩ := s
  · rw [attach_roots, attach_roots, attach_roots, pushChild_text_text]
  · change (attach (push ⟨fs, roots⟩ f) _ _).attach _ _ = attach (push ⟨fs, roots⟩ f) _ _
    rw [attach_push, attach_push, attach_push, pushChild_text_text]

/-- The tree after some nodes are put into their place. -/
def attachAll (s : Spine) (nodes : List Node) : Spine :=
  nodes.foldl (fun s node => s.attach node false) s

/-- Nodes that are put into the innermost element are put behind its children. -/
theorem attachAll_push (nodes : List Node) (f : Frame) :
    (s.push f).attachAll nodes = s.push { f with children := pushChildren nodes f.children } := by
  induction nodes generalizing f with
  | nil => rfl
  | cons node nodes ih =>
      change ((s.push f).attach node false).attachAll nodes = _
      rw [attach_push, ih]
      rfl

/-- Nodes that are put outside all elements are put behind the outer nodes. -/
theorem attachAll_roots (nodes roots : List Node) :
    (⟨[], roots⟩ : Spine).attachAll nodes = ⟨[], pushChildren nodes roots⟩ := by
  induction nodes generalizing roots with
  | nil => rfl
  | cons node nodes ih =>
      change ((⟨[], roots⟩ : Spine).attach node false).attachAll nodes = _
      rw [attach_roots, ih]
      rfl

/-- What holds of open elements no matter which children they have still holds after a node is put
into its place. -/
theorem forall_mem_attach {q : Frame → Prop} (hq : ∀ f children, q f → q { f with children })
    (hs : ∀ f ∈ s.frames, q f) (node : Node) : ∀ f ∈ (s.attach node false).frames, q f := by
  obtain ⟨_ | ⟨f, fs⟩, roots⟩ := s
  · exact hs
  · change ∀ g ∈ (attach (push ⟨fs, roots⟩ f) node false).frames, q g
    rw [attach_push]
    have hall := List.forall_mem_cons.mp hs
    exact List.forall_mem_cons.mpr ⟨hq f _ hall.1, hall.2⟩

/-- Open elements stay ordinary when a node is put into its place. -/
theorem IsOrdinary.attach (hs : s.IsOrdinary) (node : Node) :
    (s.attach node false).IsOrdinary :=
  forall_mem_attach (fun _ _ hf => ⟨hf.html, hf.listed, hf.unfostered, hf.content⟩) hs node

/-- An element that is opened may be ordinary. -/
theorem IsOrdinary.push (hs : s.IsOrdinary) (hf : f.IsOrdinary) : (s.push f).IsOrdinary :=
  List.forall_mem_cons.mpr ⟨hf, hs⟩

/-- **Closing an element puts it where it was opened.** -/
theorem pop_push (hs : s.IsOrdinary) (hf : f.IsOrdinary) :
    (s.push f).pop = s.attach f.finish false := by
  obtain ⟨_ | ⟨g, fs⟩, roots⟩ := s
  · simp [push, pop, attach, place, settle]
  · have hg := (hs g (List.mem_cons_self ..)).listed
    simp [push, pop, attach, place, settle, hf.unfostered, hg]

/-- Nothing is closed if the innermost element stays. -/
theorem popWhile_push (h : p f = false) : (s.push f).popWhile p = s.push f := by
  rw [popWhile]
  simp [push, h]

/-- Only the innermost element is closed if it is looked for. -/
theorem popThrough_push (h : p f = true) : (s.push f).popThrough p = (s.push f).pop := by
  rw [popThrough, popWhile_push (by rw [h]; rfl)]

end Spine

namespace Builder

/-- The state between two tokens of ordinary markup, given what had to be overlooked before. -/
def between (recoveries : List Recovery) (spine : Spine) (fresh : Nat) (skip : Bool) : Builder :=
  { start with spine, fresh, skipNewline := skip, recoveries }

variable {rs : List Recovery} {s : Spine} {n : Nat} {skip : Bool} {f : Frame}

/-! ### Tokens in ordinary content -/

/-- An element is opened. -/
theorem insert_between (tag : Tag) :
    (between rs s n skip).insert tag =
      between rs (s.push ⟨n, .html, tag.name, .ofList tag.attributes, true, false, []⟩) (n + 1)
        skip := rfl

/-- In ordinary content a token is dealt with at once. -/
theorem take_of_done (hs : s.IsOrdinary) {t : Token} {b : Builder} (slash : Bool)
    (hchar : ∀ c, t = .char c → (skip && c == '\n') = false) (hflaw : t ≠ .flaw)
    (hclosing : ∀ tag, t = .startTag tag → tag.selfClosing = false)
    (h : (between rs s n false).inBody t = .done b slash) : (between rs s n skip).take t = b := by
  have hforeign : (between rs s n false).isForeign t = false := by
    obtain ⟨_ | ⟨f, fs⟩, roots⟩ := s
    · rfl
    · have hf := hs f (List.mem_cons_self ..)
      change (f.vocabulary != .html && _) = false
      rw [hf.html]
      rfl
  have hverdict : (between rs s n false).verdict t = .done b slash := by
    rw [verdict, hforeign, if_neg Bool.false_ne_true]
    exact h
  have hsettle (fuel : Nat) : settle t (fuel + 1) (between rs s n false) = b := by
    rw [settle, hverdict]
    cases t with
    | startTag tag =>
        simp only [hclosing tag rfl, Bool.false_and]
        rfl
    | _ => rfl
  cases t with
  | flaw => exact absurd rfl hflaw
  | char c =>
      change (if (skip && c == '\n') = true then between rs s n false
        else settle (.char c) _ (between rs s n false)) = b
      rw [hchar c rfl, if_neg Bool.false_ne_true]
      exact hsettle _
  | _ => exact hsettle _

/-- **A character of text** is put into the innermost element. -/
theorem take_char (hs : s.IsOrdinary) {c : Char} (hnull : c ≠ '\x00')
    (hskip : (skip && c == '\n') = false) :
    (between rs s n skip).take (.char c) =
      between rs (s.attach (.text (String.singleton c)) false) n false := by
  refine take_of_done hs true (fun d hd => ?_) (by simp) (by simp) ?_
  · cases hd
    exact hskip
  · rw [inBody, if_neg (by simpa using hnull)]
    rfl

/-- A line feed right behind a start tag that drops it is dropped. -/
theorem take_newline : (between rs s n true).take (.char '\n') = between rs s n false := rfl

/-- **A text** is put into the innermost element. -/
theorem foldl_take_text (hs : s.IsOrdinary) {cs : List Char} (hcs : cs ≠ [])
    (hnull : '\x00' ∉ cs) (hskip : (skip && cs.head? == some '\n') = false) :
    (cs.map Token.char).foldl take (between rs s n skip) =
      between rs (s.attach (.text (String.ofList cs)) false) n false := by
  induction cs generalizing s skip with
  | nil => contradiction
  | cons c cs ih =>
      rw [List.mem_cons, not_or] at hnull
      rw [List.map_cons, List.foldl_cons, take_char hs (Ne.symm hnull.1) (by simpa using hskip)]
      by_cases hnil : cs = []
      · rw [hnil]
        rfl
      · rw [ih (hs.attach _) hnil hnull.2 rfl, Spine.attach_text_text]
        congr 3
        rw [← String.toList_inj]
        simp

/-- **A flaw** is overlooked. -/
theorem take_flaw : (between rs s n skip).take .flaw = between (.malformed :: rs) s n false := rfl

/-- **A null character** is overlooked. -/
theorem take_null (hs : s.IsOrdinary) :
    (between rs s n skip).take (.char '\x00') = between (.misplaced :: rs) s n false := by
  refine take_of_done hs true (fun c hc => ?_) (by simp) (by simp) rfl
  cases hc
  rw [show ('\x00' == '\n') = false by decide, Bool.and_false]

/-- Nothing with a name is in scope where nothing with the name is open. -/
theorem hasInScope_eq_false {name : String} (h : ∀ f ∈ s.frames, f.name ≠ name)
    (stops : Frame → Bool) : (between rs s n skip).hasInScope stops name = false := by
  rw [hasInScope, Spine.inScope]
  cases hfind : (between rs s n skip).spine.listed.find? fun f => f.named name || stops f with
  | none => rfl
  | some f =>
      have hmem : f ∈ s.frames := (List.mem_filter.mp (List.mem_of_find?_eq_some hfind)).1
      simp [Frame.named, h f hmem]

/-- No paragraph is closed where none is open. -/
theorem closeParagraphInScope_between (hp : ∀ f ∈ s.frames, f.name ≠ "p") :
    (between rs s n skip).closeParagraphInScope = between rs s n skip := by
  rw [closeParagraphInScope, hasInScope_eq_false hp, if_neg Bool.false_ne_true]

/-! ### Start tags -/

section

variable {tag : Tag} (hs : s.IsOrdinary) (hclosing : tag.selfClosing = false)

include hs hclosing

/-- What becomes of a start tag. -/
theorem take_startTag_of_done {b : Builder} (slash : Bool)
    (h : (between rs s n false).startInBody tag = .done b slash) :
    (between rs s n skip).take (.startTag tag) = b :=
  take_of_done hs slash (by simp) (by simp) (fun _ ht => by cases ht; exact hclosing) h

/-- **The start tag of an ordinary element** opens it. -/
theorem take_startTag_ordinary (hrule : startRule tag.name = .ordinary) :
    (between rs s n skip).take (.startTag tag) =
      between rs (s.push ⟨n, .html, tag.name, .ofList tag.attributes, true, false, []⟩) (n + 1)
        false := by
  refine take_startTag_of_done hs hclosing false ?_
  rw [startInBody, hrule]
  rfl

/-- **The start tag of an element without content** adds it. -/
theorem take_startTag_void (hrule : startRule tag.name = .void) :
    (between rs s n skip).take (.startTag tag) =
      between rs (s.attach (.element tag.name (.ofList tag.attributes) []) false) (n + 1) false := by
  have hf : Frame.IsOrdinary ⟨n, .html, tag.name, .ofList tag.attributes, true, false, []⟩ := by
    refine ⟨rfl, rfl, rfl, fun htemplate => ?_⟩
    rw [show tag.name = "template" from htemplate] at hrule
    exact absurd hrule (by decide +kernel)
  refine take_startTag_of_done hs hclosing true ?_
  rw [startInBody, hrule]
  change Verdict.done (insertVoid (between rs s n false) tag) true = _
  rw [insertVoid, insert_between, pop]
  change Verdict.done (between rs (Spine.pop (s.push _)) (n + 1) false) true = _
  rw [Spine.pop_push hs hf, hf.finish]
  rfl

/-- **The start tag of a block** opens it, where no paragraph is open. -/
theorem take_startTag_block (hp : ∀ f ∈ s.frames, f.name ≠ "p")
    (hrule : startRule tag.name = .block) :
    (between rs s n skip).take (.startTag tag) =
      between rs (s.push ⟨n, .html, tag.name, .ofList tag.attributes, true, false, []⟩) (n + 1)
        false := by
  refine take_startTag_of_done hs hclosing false ?_
  rw [startInBody, hrule]
  change Verdict.done ((between rs s n false).closeParagraphInScope.insert tag) false = _
  rw [closeParagraphInScope_between hp]
  rfl

/-- **The start tag of preformatted text** opens it, where no paragraph is open. A line feed right
behind it is dropped. -/
theorem take_startTag_preformatted (hp : ∀ f ∈ s.frames, f.name ≠ "p")
    (hrule : startRule tag.name = .preformatted) :
    (between rs s n skip).take (.startTag tag) =
      between rs (s.push ⟨n, .html, tag.name, .ofList tag.attributes, true, false, []⟩) (n + 1)
        true := by
  refine take_startTag_of_done hs hclosing false ?_
  rw [startInBody, hrule]
  change Verdict.done { (between rs s n false).closeParagraphInScope.insert tag with
    skipNewline := true } false = _
  rw [closeParagraphInScope_between hp]
  rfl

end

/-! ### End tags -/

section

variable (hs : s.IsOrdinary) (hf : f.IsOrdinary)

include hf

/-- The innermost element is in scope. -/
theorem hasInScope_push (stops : Frame → Bool) :
    (between rs (s.push f) n skip).hasInScope stops f.name = true := by
  have hlisted : (s.push f).listed = f :: s.listed := List.filter_cons_of_pos hf.listed
  have hnamed : f.named f.name = true := by rw [hf.named, beq_self_eq_true]
  change ((s.push f).listed.find? fun g => g.named f.name || stops g).any _ = true
  rw [hlisted, List.find?_cons_of_pos (by rw [hnamed, Bool.true_or])]
  exact hnamed

include hs

/-- The innermost element is closed by its name. -/
theorem closeNamed_push :
    (between rs (s.push f) n skip).closeNamed f.name = between rs (s.attach f.finish false) n skip := by
  have hnamed : f.named f.name = true := by rw [hf.named, beq_self_eq_true]
  have hcurrent : (between rs (s.push f) n skip).currentNamed f.name = true := hnamed
  have hthrough : (s.push f).popThrough (fun g => g.named f.name) = (s.push f).pop :=
    Spine.popThrough_push hnamed
  rw [closeNamed, hcurrent, ← Spine.pop_push hs hf, ← hthrough]
  rfl

/-- What becomes of an end tag. -/
theorem take_endTag_of_done {name : String} {b : Builder}
    (h : (between rs (s.push f) n false).endInBody name = b) :
    (between rs (s.push f) n skip).take (.endTag name) = b :=
  take_of_done (hs.push hf) true (by simp) (by simp) (by simp) (by rw [← h]; rfl)

/-- **The end tag of a block** closes it. -/
theorem take_endTag_block (hrule : endRule f.name = .block)
    (himplied : impliedNames.contains f.name = false) :
    (between rs (s.push f) n skip).take (.endTag f.name) =
      between rs (s.attach f.finish false) n false := by
  refine take_endTag_of_done hs hf ?_
  have himplied' : (between rs (s.push f) n false).closeImplied = between rs (s.push f) n false := by
    rw [closeImplied]
    change between rs ((s.push f).popWhile _) n false = _
    rw [Spine.popWhile_push (by rw [hf.among, himplied])]
  rw [endInBody, hrule]
  simp only [hasInScope_push hf, if_true, himplied', closeNamed_push hs hf]

/-- **The end tag of a paragraph** closes it. -/
theorem take_endTag_paragraph (hp : f.name = "p") :
    (between rs (s.push f) n skip).take (.endTag f.name) =
      between rs (s.attach f.finish false) n false := by
  refine take_endTag_of_done hs hf ?_
  have hscope : (between rs (s.push f) n false).hasInScope stopsButton f.name = true :=
    hasInScope_push hf _
  have hnamed : (between rs (s.push f) n false).closeNamed f.name =
      between rs (s.attach f.finish false) n false := closeNamed_push hs hf
  have himplied : (between rs (s.push f) n false).closeImpliedExcept "p" =
      between rs (s.push f) n false := by
    rw [closeImpliedExcept]
    change between rs ((s.push f).popWhile _) n false = _
    rw [Spine.popWhile_push (by rw [hp]; simp)]
  have hrule : endRule "p" = .paragraph := by decide +kernel
  rw [hp] at hscope hnamed ⊢
  rw [endInBody, hrule]
  simp only [hscope, if_true, closeParagraph, himplied, hnamed]

/-- **The end tag of an ordinary element** closes it. -/
theorem take_endTag_ordinary (hrule : endRule f.name = .ordinary) :
    (between rs (s.push f) n skip).take (.endTag f.name) =
      between rs (s.attach f.finish false) n false := by
  refine take_endTag_of_done hs hf ?_
  have hlisted : (s.push f).listed = f :: s.listed := List.filter_cons_of_pos hf.listed
  have hnamed : f.named f.name = true := by rw [hf.named, beq_self_eq_true]
  have himplied : (between rs (s.push f) n false).closeImpliedExcept f.name =
      between rs (s.push f) n false := by
    rw [closeImpliedExcept]
    change between rs ((s.push f).popWhile _) n false = _
    rw [Spine.popWhile_push (by simp)]
  have hfind : ((between rs (s.push f) n false).spine.listed.find? fun g =>
      g.named f.name || isSpecial g) = some f := by
    change (s.push f).listed.find? _ = _
    rw [hlisted, List.find?_cons_of_pos (by rw [hnamed, Bool.true_or])]
  have hcurrent : ((between rs (s.push f) n false).spine.current?.any fun g => g.id == f.id) =
      true := beq_self_eq_true f.id
  rw [endInBody, hrule]
  simp only [closeOrdinary, hfind, hnamed, if_true, himplied, hcurrent]
  have hthrough : (s.push f).popThrough (fun g => g.id == f.id) = (s.push f).pop :=
    Spine.popThrough_push (beq_self_eq_true f.id)
  rw [← Spine.pop_push hs hf, ← hthrough]
  rfl

end

/-! ### The end -/

/-- The end of the text is fine where nothing is open. -/
theorem take_stop (roots : List Node) :
    (between rs ⟨[], roots⟩ n skip).take .stop = between rs ⟨[], roots⟩ n false := rfl

/-- A builder takes what the scanner finds. -/
theorem run_of_scan (hs : s.IsOrdinary) {cs rest : List Char} {tokens : List Token}
    (hcs : cs ≠ []) (h : scan .markup false cs = (tokens, rest)) :
    (between rs s n skip).run cs = (tokens.foldl take (between rs s n skip)).run rest := by
  have hforeign : (between rs s n skip).insideForeign = false := by
    obtain ⟨_ | ⟨f, fs⟩, roots⟩ := s
    · rfl
    · have hf := hs f (List.mem_cons_self ..)
      change (f.vocabulary != .html) = false
      rw [hf.html]
      rfl
  have hcontent : (between rs s n skip).content = .markup := rfl
  rw [run, dif_neg hcs]
  simp only [hforeign, hcontent, h]

end Builder

end TwinRender.Markup
