import TwinRender.Proofs.Markup.InPlace
import TwinRender.Proofs.Markup.Scanning

/-!
# Parsing what was written

The markup of a tree is parsed into the tree again, and nothing has to be overlooked, where all
elements stay in place. Texts must be told from each other by the elements between them, and must
not hold what a parser drops.

## Main definitions

* `VNode.parsed`, `VNode.parsedList`: trees as a parser gives them.
* `VNode.leadChars`: the line feed that is written in front of one that would be dropped.

## Main results

* `VNode.run_writeList`: the state of tree construction behind the markup of some trees.
* `VNode.parse_writeList`: **written trees are parsed into themselves**, and nothing is overlooked.
-/

namespace TwinRender

open Markup (Spine Frame Builder Node IsClean Brackets contentChars beginning guardNewline
  pushChild pushChildren)
open Markup.Builder (between)

namespace VNode

mutual

/-- A tree as a parser gives it. -/
def parsed : VNode → Node
  | .element tag attributes children => .element tag attributes (parsedList children)
  | .text s => .text s

/-- Trees as a parser gives them. -/
def parsedList : List VNode → List Node
  | [] => []
  | n :: ns => n.parsed :: parsedList ns

end

variable {tag : String} {attributes : OrderedMap String} {children ns : List VNode}
  {rs : List Markup.Recovery} {s : Spine} {n : Nat} {skip : Bool} {x : List Char}

/-- Trees that a parser gives, one behind the other. -/
theorem parsedList_append (ms ns : List VNode) :
    parsedList (ms ++ ns) = parsedList ms ++ parsedList ns := by
  induction ms with
  | nil => rfl
  | cons m ms ih => rw [List.cons_append, parsedList, parsedList, ih, List.cons_append]

/-- Nodes of which one is no text do not join. -/
theorem pushChild_of_apart {m last : VNode} (h : Apart last m) (children : List Node) :
    pushChild m.parsed (last.parsed :: children) = m.parsed :: last.parsed :: children := by
  cases m with
  | element tag attributes below => rfl
  | text t =>
      cases last with
      | element tag attributes below => rfl
      | text s => simp [Apart, text?] at h

/-- Trees that can be told from each other do not join when they are put into their place. -/
theorem pushChildren_parsedList (ms : List VNode) (h : Separated (ms ++ ns)) :
    pushChildren (parsedList ns) (parsedList ms).reverse = (parsedList (ms ++ ns)).reverse := by
  induction ns generalizing ms with
  | nil =>
      rw [List.append_nil]
      rfl
  | cons m ns ih =>
      have hpush : pushChild m.parsed (parsedList ms).reverse =
          (parsedList (ms ++ [m])).reverse := by
        rcases List.eq_nil_or_concat' ms with rfl | ⟨before, last, rfl⟩
        · cases m <;> rfl
        · have hapart : Apart last m :=
            (List.isChain_append.mp h.apart).2.2 last (by simp) m rfl
          simp only [parsedList_append, List.reverse_append, parsedList, List.reverse_singleton,
            List.singleton_append]
          exact pushChild_of_apart hapart _
      have hsplit : ms ++ m :: ns = ms ++ [m] ++ ns := by simp
      rw [hsplit] at h ⊢
      rw [← ih _ h, ← hpush]
      rfl

/-- The children of a finished element are those that were written. -/
theorem reverse_pushChildren (h : Separated ns) :
    (pushChildren (parsedList ns) []).reverse = parsedList ns := by
  have hpush := pushChildren_parsedList [] h
  rw [show (parsedList []).reverse = ([] : List Node) from rfl, List.nil_append] at hpush
  rw [hpush, List.reverse_reverse]

/-! ### Texts -/

/-- The line feed that guards trees behind a start tag that drops one. -/
def leadChars (skip : Bool) (ns : List VNode) : List Char :=
  if skip && (ns.head?.bind text?).any fun t => t.toList.head? == some '\n' then ['\n'] else []

/-- The line feed that is written behind a start tag. -/
theorem toList_guardNewline (tag : String) (ns : List VNode) :
    (guardNewline tag (ns.head?.bind text?)).toList =
      leadChars (Html.dropsLeadingNewline tag) ns := by
  have hnewline : "\n".toList = ['\n'] := by decide +kernel
  rw [guardNewline, leadChars, apply_ite String.toList, hnewline, String.toList_empty]

/-- A text is put into its place as it was written, and its guard is dropped. -/
theorem foldl_take_led (hs : s.IsOrdinary) {t : String} (ht : t ≠ "") (hclean : IsClean t) :
    ((leadChars skip (.text t :: ns) ++ t.toList).map Markup.Token.char).foldl Builder.take
        (between rs s n skip) =
      between rs (s.attach (.text t) false) n false := by
  have hne : t.toList ≠ [] := fun h => ht (String.toList_eq_nil_iff.mp h)
  rw [leadChars, List.head?_cons, Option.bind_some, text?, Option.any_some]
  split
  · next hguard =>
    obtain rfl : skip = true := (Bool.and_eq_true _ _).mp hguard |>.1
    rw [List.map_append, List.foldl_append]
    change (t.toList.map Markup.Token.char).foldl Builder.take
      ((between rs s n true).take (.char '\n')) = _
    rw [Builder.take_newline, Builder.foldl_take_text hs hne hclean.null rfl,
      String.ofList_toList]
  · next hguard =>
    rw [List.nil_append, Builder.foldl_take_text hs hne hclean.null (by simpa using hguard),
      String.ofList_toList]

/-- The markup of a text leaves the text in its place. -/
theorem run_text (hs : s.IsOrdinary) {t : String} (ht : t ≠ "") (hclean : IsClean t)
    (hx : ∀ c ∈ x.head?, (c != '<') = false) :
    (between rs s n skip).run
        (leadChars skip (.text t :: ns) ++ (Text.escapeChars t.toList ++ x)) =
      (between rs (s.attach (.text t) false) n false).run x := by
  have hlead : leadChars skip (.text t :: ns) ++ (Text.escapeChars t.toList ++ x) =
      Text.escapeChars (leadChars skip (.text t :: ns) ++ t.toList) ++ x := by
    rw [Text.escapeChars_append, List.append_assoc]
    congr 1
    rw [leadChars]
    split <;> rfl
  have hne : leadChars skip (.text t :: ns) ++ t.toList ≠ [] :=
    List.append_ne_nil_of_right_ne_nil _ fun h => ht (String.toList_eq_nil_iff.mp h)
  have hnull : '\x00' ∉ leadChars skip (.text t :: ns) ++ t.toList := by
    rw [List.mem_append, not_or, leadChars]
    refine ⟨?_, hclean.null⟩
    split <;> simp
  have hchars : Text.escapeChars (leadChars skip (.text t :: ns) ++ t.toList) ++ x ≠ [] :=
    List.append_ne_nil_of_left_ne_nil (fun h => hne (Text.escapeChars_eq_nil_iff.mp h)) _
  rw [hlead, Builder.run_of_scan hs hchars (Markup.scan_text hne hx false),
    Markup.charTokens_eq_map hnull, foldl_take_led hs ht hclean]

/-! ### Elements -/

/-- The start tag of an element without content leaves the element in its place. -/
theorem run_void (hs : s.IsOrdinary) (h : IsReadable tag attributes children)
    (hvoid : Html.isVoid tag = true) (hrule : Markup.startRule tag = .void)
    (hclean : ∀ a ∈ attributes.toList, IsClean a.2) :
    (between rs s n skip).run ((write false (.element tag attributes children)).toList ++ x) =
      (between rs (s.attach (parsed (.element tag attributes children)) false) (n + 1)
        false).run x := by
  have hscan := Markup.scan_startTag h.names.tag h.lowercase h.names.attributes
    (fun a ha => (hclean a ha).null) false x
  rw [toList_write_element h, contentChars, if_pos hvoid, List.cons_append, List.append_assoc,
    List.append_assoc]
  simp only [List.cons_append, List.nil_append]
  rw [Builder.run_of_scan hs (List.cons_ne_nil _ _) hscan, List.foldl_cons, List.foldl_nil,
    Builder.take_startTag_void hs rfl hrule, h.void hvoid]
  simp only [OrderedMap.ofList_toList]
  rfl

/-- The markup of an element leaves the element in its place, if that of its children leaves them
in it. -/
theorem run_element (n : Nat) (skip : Bool) (x : List Char) (hs : s.IsOrdinary)
    (h : IsReadable tag attributes children)
    (hvoid : Html.isVoid tag = false) (hbrackets : Brackets tag s)
    (hclean : ∀ a ∈ attributes.toList, IsClean a.2)
    (hchildren : ∀ (n : Nat) (f : Frame), f.IsOrdinary → f.name = tag → ∀ (y : List Char),
      beginning y = .nothing → ∃ n' skip',
        (between rs (s.push f) n (Html.dropsLeadingNewline tag)).run
            (leadChars (Html.dropsLeadingNewline tag) children ++
              ((writeList false children).toList ++ y)) =
          (between rs ((s.push f).attachAll (parsedList children)) n' skip').run y) :
    ∃ n', (between rs s n skip).run
        ((write false (.element tag attributes children)).toList ++ x) =
      (between rs (s.attach (parsed (.element tag attributes children)) false) n' false).run x := by
  have hscan (y : List Char) := Markup.scan_startTag h.names.tag h.lowercase
    h.names.attributes (fun a ha => (hclean a ha).null) false y
  have hf : Frame.IsOrdinary ⟨n, .html, tag, attributes, true, false, []⟩ :=
    ⟨rfl, rfl, rfl, hbrackets.content⟩
  obtain ⟨n', skip', hrun⟩ := hchildren (n + 1) _ hf rfl
    ('<' :: '/' :: (tag.toList ++ '>' :: x)) rfl
  refine ⟨n', ?_⟩
  rw [toList_write_element h, contentChars, if_neg (by rw [hvoid]; exact Bool.false_ne_true),
    toList_guardNewline]
  simp only [List.cons_append, List.append_assoc, List.nil_append]
  rw [Builder.run_of_scan hs (List.cons_ne_nil _ _) (hscan _), List.foldl_cons, List.foldl_nil,
    hbrackets.opens, OrderedMap.ofList_toList, hrun, Spine.attachAll_push]
  have hf' : Frame.IsOrdinary ⟨n, .html, tag, attributes, true, false,
      pushChildren (parsedList children) []⟩ := ⟨rfl, rfl, rfl, hbrackets.content⟩
  rw [Builder.run_of_scan (hs.push hf') (List.cons_ne_nil _ _)
    (Markup.scan_endTag h.names.tag false x), List.foldl_cons, List.foldl_nil, h.lowercase.tag,
    hbrackets.closes _ hf' rfl, hf'.finish, reverse_pushChildren h.separated]
  rfl

/-! ### Trees -/

/-- **The markup of trees leaves the trees in their place.** -/
theorem run_writeList : ∀ (ns : List VNode) {s : Spine} {n : Nat} (skip : Bool) {x : List Char},
    AllElementsIn IsReadable ns → Separated ns → AllTextsIn IsClean ns → s.IsOrdinary →
    StandIn ns s → beginning x = .nothing →
    ∃ n' skip', (between rs s n skip).run (leadChars skip ns ++ ((writeList false ns).toList ++ x)) =
      (between rs (s.attachAll (parsedList ns)) n' skip').run x
  | [], s, n, skip, x, _, _, _, _, _, _ => by
      refine ⟨n, skip, ?_⟩
      have hlead : leadChars skip [] = [] := by simp [leadChars]
      rw [hlead, writeList, String.toList_empty, List.nil_append, List.nil_append]
      rfl
  | .text t :: ns, s, n, skip, x, hread, hseparated, hclean, hs, hstand, hx => by
      obtain ⟨n', skip', hrun⟩ := run_writeList ns (n := n) false hread.2 hseparated.tail hclean.2
        (hs.attach (.text t)) (hstand.behind (.text t)) hx
      refine ⟨n', skip', ?_⟩
      have hlead : leadChars false ns = [] := by simp [leadChars]
      rw [toList_writeList_cons, toList_write_text, List.append_assoc,
        run_text hs (hseparated.nonempty t (List.mem_cons_self ..)) hclean.1
          (head?_behind_text hread hseparated hx)]
      rw [hlead, List.nil_append] at hrun
      exact hrun
  | .element tag attributes children :: ns, s, n, skip, x, hread, hseparated, hclean, hs, hstand,
      hx => by
      have hlead : leadChars skip (.element tag attributes children :: ns) = [] := by
        simp [leadChars, text?]
      have hbehind (n : Nat) := run_writeList ns (n := n) false hread.2 hseparated.tail hclean.2
        (hs.attach (parsed (.element tag attributes children)))
        (hstand.behind (parsed (.element tag attributes children))) hx
      have hlead' : leadChars false ns = [] := by simp [leadChars]
      simp only [hlead', List.nil_append] at hbehind
      rw [hlead, List.nil_append, toList_writeList_cons, List.append_assoc]
      rcases hstand.keepsPlace hread.1.1.lowercase.tag hs with
        ⟨hvoid, hrule⟩ | ⟨hvoid, hbrackets⟩
      · rw [run_void hs hread.1.1 hvoid hrule hclean.1.1]
        exact hbehind (n + 1)
      · obtain ⟨n', hrun⟩ := run_element n skip ((writeList false ns).toList ++ x) hs hread.1.1
          hvoid hbrackets hclean.1.1
          fun n f hf hname y hy => run_writeList children _ hread.1.2 hread.1.1.separated
            hclean.1.2 (hs.push hf) (hstand.inside hname) hy
        rw [hrun]
        exact hbehind n'

/-! ### Whole texts -/

/-- No carriage return stands in the attributes of a start tag. -/
theorem carriage_not_mem_attributes {entries : List (String × String)}
    (hnames : ∀ a ∈ entries, Html.isAttributeName a.1 = true)
    (hclean : ∀ a ∈ entries, IsClean a.2) : '\r' ∉ entries.flatMap Markup.attributeChars := by
  intro hmem
  obtain ⟨a, ha, hchar⟩ := List.mem_flatMap.mp hmem
  have hname : '\r' ∉ a.1.toList := fun h =>
    absurd (Html.not_endsAttributeName_of_mem (hnames a ha) _ h) (by decide)
  have hvalue : '\r' ∉ Text.escapeChars a.2.toList := fun h =>
    (hclean a ha).carriage (Markup.mem_of_mem_escapeChars h (by decide))
  rw [Markup.attributeChars, Markup.valueChars] at hchar
  split at hchar
  · simp [hname] at hchar
  · simp [hname, hvalue] at hchar

/-- No carriage return stands in the markup of clean trees. -/
theorem carriage_not_mem_writeList : ∀ ns : List VNode, AllElementsIn IsReadable ns →
    AllTextsIn IsClean ns → '\r' ∉ (writeList false ns).toList
  | [], _, _ => by
      rw [writeList, String.toList_empty]
      exact List.not_mem_nil
  | .text t :: ns, hread, hclean => by
      rw [toList_writeList_cons, toList_write_text, List.mem_append, not_or]
      exact ⟨fun h => hclean.1.carriage (Markup.mem_of_mem_escapeChars h (by decide)),
        carriage_not_mem_writeList ns hread.2 hclean.2⟩
  | .element tag attributes children :: ns, hread, hclean => by
      have htag : '\r' ∉ tag.toList := fun h =>
        absurd (Html.isTagChar_of_mem hread.1.1.names.tag _ h) (by decide)
      have hattributes : '\r' ∉ attributes.toList.flatMap Markup.attributeChars :=
        carriage_not_mem_attributes
          (fun a ha => hread.1.1.names.attributes a.1 (List.mem_map_of_mem ha)) hclean.1.1
      have hcontent : '\r' ∉ contentChars tag children := by
        rw [contentChars]
        split
        · exact List.not_mem_nil
        · have hguard : '\r' ∉ leadChars (Html.dropsLeadingNewline tag) children := by
            rw [leadChars]
            split <;> simp
          rw [toList_guardNewline]
          simp [hguard, htag, carriage_not_mem_writeList children hread.1.2 hclean.1.2]
      rw [toList_writeList_cons, toList_write_element hread.1.1]
      simp [htag, hattributes, hcontent, carriage_not_mem_writeList ns hread.2 hclean.2]

/-- No byte order mark stands in front of the markup of clean trees. -/
theorem head?_writeList_ne_mark (hread : AllElementsIn IsReadable ns) (hs : Separated ns)
    (hclean : AllTextsIn IsClean ns) : (writeList false ns).toList.head? ≠ some '\ufeff' := by
  match ns with
  | [] => simp [writeList]
  | .element tag attributes children :: ns =>
      rw [toList_writeList_cons, toList_write_element hread.1.1]
      simp
  | .text t :: ns =>
      obtain ⟨c, cs, hchars, -, -⟩ :=
        exists_toList_write_text (hs.nonempty t (List.mem_cons_self ..))
      rw [toList_writeList_cons, hchars, List.cons_append, List.head?_cons, ne_eq,
        Option.some.injEq]
      rintro rfl
      rw [toList_write_text] at hchars
      exact hclean.1.mark (Markup.mem_of_mem_escapeChars (hchars ▸ List.mem_cons_self ..)
        (by decide))

/-- **Written trees are parsed into themselves**, and nothing is overlooked. -/
theorem parse_writeList (hread : AllElementsIn IsReadable ns) (hseparated : Separated ns)
    (hclean : AllTextsIn IsClean ns) (hstay : AllElementsIn StaysInPlace ns) :
    Markup.parse (writeList false ns) = parsedList ns ∧
      Markup.recoveries (writeList false ns) = [] := by
  have hprepare : Markup.prepare (writeList false ns).toList = (writeList false ns).toList :=
    Markup.prepare_eq_self (carriage_not_mem_writeList ns hread hclean)
      (head?_writeList_ne_mark hread hseparated hclean)
  have hnone : Spine.IsOrdinary ⟨[], []⟩ := fun f hf => absurd hf List.not_mem_nil
  obtain ⟨n, skip, hrun⟩ := run_writeList ns (n := 0) false (x := []) hread hseparated hclean
    hnone (.flow hstay fun f hf => absurd hf List.not_mem_nil) rfl
  have hlead : leadChars false ns = [] := by simp [leadChars]
  have hbuild : Markup.build (writeList false ns) =
      between [] ⟨[], pushChildren (parsedList ns) []⟩ n false := by
    rw [hlead, List.nil_append, List.append_nil, Spine.attachAll_roots] at hrun
    rw [Markup.build, hprepare]
    refine hrun.trans ?_
    rw [Builder.run, dif_pos rfl, Builder.take_stop]
  rw [Markup.parse, Markup.recoveries, hbuild]
  refine ⟨?_, rfl⟩
  have hfinish (roots : List Node) : Spine.finish ⟨[], roots⟩ = roots.reverse := by
    rw [Spine.finish, Spine.popWhile]
  exact (hfinish _).trans (reverse_pushChildren hseparated)

end VNode

end TwinRender
