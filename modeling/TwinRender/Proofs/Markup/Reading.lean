import TwinRender.Proofs.Render.Readable
import TwinRender.Proofs.Text.Escape

/-!
# Markup that is read in one way

The markup of readable trees determines the trees. Every part of it ends where a character comes
that cannot stand in it: a text at a start or end tag, a tag at a space or the end of the start tag,
a name of an attribute at its value or behind it, and a value at its second quote. All characters
in a text or value that could end it are written as references, and a reference stands for one
character only.

## Main definitions

* `Markup.attributeChars`: an attribute as it is written.
* `Markup.Beginning`, `Markup.beginning`: what markup begins with.

## Main results

* `Markup.attributes_inj`: the attributes in a start tag are read in one way.
* `VNode.writeList_inj`: **the markup of readable trees determines the trees**.
-/

namespace TwinRender

namespace Markup

open Text (escapeChars)

/-- Characters of one kind that are followed by none of the kind are cut off. -/
theorem takeWhile_append_of_stop {p : Char → Bool} {a x : List Char} (ha : ∀ c ∈ a, p c = true)
    (hx : ∀ c ∈ x.head?, p c = false) :
    (a ++ x).takeWhile p = a ∧ (a ++ x).dropWhile p = x := by
  rw [List.takeWhile_append_of_pos ha, List.dropWhile_append_of_pos ha]
  cases x with
  | nil => exact ⟨List.append_nil a, rfl⟩
  | cons c x =>
      have hc : ¬ p c = true := by simp [hx c rfl]
      rw [List.takeWhile_cons_of_neg hc, List.dropWhile_cons_of_neg hc, List.append_nil]
      exact ⟨rfl, rfl⟩

/-- Characters of one kind that are followed by none of the kind are read in one way. -/
theorem append_inj_of_stop {p : Char → Bool} {a b x y : List Char} (ha : ∀ c ∈ a, p c = true)
    (hb : ∀ c ∈ b, p c = true) (hx : ∀ c ∈ x.head?, p c = false)
    (hy : ∀ c ∈ y.head?, p c = false) (h : a ++ x = b ++ y) : a = b ∧ x = y := by
  obtain ⟨htake, hdrop⟩ := takeWhile_append_of_stop ha hx
  obtain ⟨htake', hdrop'⟩ := takeWhile_append_of_stop hb hy
  rw [h] at htake hdrop
  exact ⟨htake.symm.trans htake', hdrop.symm.trans hdrop'⟩

/-! ### Start tags -/

/-- The value of an attribute as it is written, behind the name. -/
def valueChars (value : String) : List Char :=
  if value.isEmpty then [] else '=' :: '"' :: (escapeChars value.toList ++ ['"'])

/-- An attribute as it is written. -/
def attributeChars (a : String × String) : List Char := ' ' :: (a.1.toList ++ valueChars a.2)

/-- The characters of an attribute. -/
theorem toList_attributeText (name value : String) :
    (attributeText name value).toList = attributeChars (name, value) := by
  rw [attributeText, attributeChars, valueChars]
  split <;> simp [Text.escape]

/-- The characters of attributes. -/
theorem toList_join_attributeText (attributes : List (String × String)) :
    (String.join (attributes.map fun a => attributeText a.1 a.2)).toList =
      attributes.flatMap attributeChars := by
  induction attributes with
  | nil => rfl
  | cons a rest ih =>
      rw [List.map_cons, String.join_cons, String.toList_append, ih, toList_attributeText,
        List.flatMap_cons]

/-- What stands behind an attribute in a start tag: another attribute, or the end. -/
def EndsAttribute (x : List Char) : Prop := x.head? = some ' ' ∨ x.head? = some '>'

/-- What stands behind attributes in a start tag, and what stands in their place if there are
none. -/
theorem endsAttribute_attributes (attributes : List (String × String)) (x : List Char) :
    EndsAttribute (attributes.flatMap attributeChars ++ '>' :: x) := by
  cases attributes with
  | nil => exact Or.inr rfl
  | cons a rest => exact Or.inl rfl

/-- A value is read in one way. -/
theorem value_inj {v w : String} {x y : List Char} (hx : EndsAttribute x) (hy : EndsAttribute y)
    (h : valueChars v ++ x = valueChars w ++ y) : v = w ∧ x = y := by
  have hequals {x : List Char} (hx : EndsAttribute x) : x.head? ≠ some '=' := by
    rcases hx with hx | hx <;> rw [hx] <;> decide
  rw [valueChars, valueChars] at h
  split at h
  · next hv =>
    split at h
    · next hw =>
      rw [String.isEmpty_iff] at hv hw
      exact ⟨hv.trans hw.symm, h⟩
    · exact absurd (by rw [← List.nil_append x, h]; rfl) (hequals hx)
  · split at h
    · exact absurd (by rw [← List.nil_append y, ← h]; rfl) (hequals hy)
    · -- the second quote is the first one that is not escaped
      have hquote {cs : List Char} : ∀ c ∈ escapeChars cs, (c != '"') = true :=
        fun c hc => bne_iff_ne.mpr (Text.not_mark_of_mem_escapeChars hc).2.2
      simp only [List.cons_append, List.append_assoc, List.nil_append, List.cons.injEq,
        true_and] at h
      obtain ⟨hvalue, hrest⟩ := append_inj_of_stop hquote hquote (by simp) (by simp) h
      exact ⟨String.toList_inj.mp (Text.escapeChars_injective hvalue), (List.cons.inj hrest).2⟩

/-- **The attributes in a start tag are read in one way.** -/
theorem attributes_inj {as bs : List (String × String)} {x y : List Char}
    (has : ∀ a ∈ as, Html.isAttributeName a.1 = true)
    (hbs : ∀ b ∈ bs, Html.isAttributeName b.1 = true)
    (h : as.flatMap attributeChars ++ '>' :: x = bs.flatMap attributeChars ++ '>' :: y) :
    as = bs ∧ x = y := by
  induction as generalizing bs with
  | nil =>
      cases bs with
      | nil => exact ⟨rfl, (List.cons.inj h).2⟩
      | cons b bs => exact absurd (List.cons.inj h).1 (by decide)
  | cons a as ih =>
      cases bs with
      | nil => exact absurd (List.cons.inj h).1 (by decide)
      | cons b bs =>
          rw [List.forall_mem_cons] at has hbs
          simp only [List.flatMap_cons, attributeChars, List.cons_append, List.append_assoc,
            List.cons.injEq, true_and] at h
          -- a name ends at its value or behind it
          have hname {name : String} (hvalid : Html.isAttributeName name = true) :
              ∀ c ∈ name.toList, (!Html.endsAttributeName c) = true :=
            fun c hc => by rw [Html.not_endsAttributeName_of_mem hvalid c hc]; rfl
          have hbehind (value : String) {x : List Char} (hx : EndsAttribute x) :
              ∀ c ∈ (valueChars value ++ x).head?, (!Html.endsAttributeName c) = false := by
            rw [valueChars]
            split
            · rw [List.nil_append]
              rcases hx with hx | hx <;> rw [hx] <;> simp <;> decide
            · simp only [List.cons_append, List.head?_cons, Option.mem_def, Option.some.injEq,
                forall_eq']
              decide
          have hends := fun bs => endsAttribute_attributes bs
          obtain ⟨hnames, hrest⟩ := append_inj_of_stop (hname has.1) (hname hbs.1)
            (hbehind a.2 (hends as x)) (hbehind b.2 (hends bs y)) h
          obtain ⟨hvalues, hrest⟩ := value_inj (hends as x) (hends bs y) hrest
          obtain ⟨rfl, hxy⟩ := ih has.2 hbs.2 hrest
          obtain rfl : a = b := Prod.ext (String.toList_inj.mp hnames) hvalues
          exact ⟨rfl, hxy⟩

/-- The tag of an element is read in one way. -/
theorem tag_inj {tag tag' : String} {x y : List Char} (htag : Html.isTagName tag = true)
    (htag' : Html.isTagName tag' = true) (hx : EndsAttribute x) (hy : EndsAttribute y)
    (h : tag.toList ++ x = tag'.toList ++ y) : tag = tag' ∧ x = y := by
  have hbehind {x : List Char} (hx : EndsAttribute x) :
      ∀ c ∈ x.head?, (Html.isAlphanumeric c || c == '-') = false := by
    rcases hx with hx | hx <;> rw [hx] <;> simp <;> decide
  obtain ⟨htags, hrest⟩ :=
    append_inj_of_stop (Html.isTagChar_of_mem htag) (Html.isTagChar_of_mem htag') (hbehind hx)
      (hbehind hy) h
  exact ⟨String.toList_inj.mp htags, hrest⟩

/-! ### Contents -/

/-- What markup begins with. -/
inductive Beginning where
  /-- There is nothing, or an end tag: the content is over. -/
  | nothing
  /-- There is a start tag. -/
  | element
  /-- There is text. -/
  | text

/-- What some markup begins with. -/
def beginning : List Char → Beginning
  | [] => .nothing
  | '<' :: '/' :: _ => .nothing
  | '<' :: _ => .element
  | _ :: _ => .text

/-- A start tag is no end tag. -/
theorem beginning_openingTag {c : Char} (hc : c ≠ '/') (cs : List Char) :
    beginning ('<' :: c :: cs) = .element := by
  simp [beginning, hc]

/-- A character that begins no tag is text. -/
theorem beginning_text {c : Char} (hc : c ≠ '<') (cs : List Char) :
    beginning (c :: cs) = .text := by
  simp [beginning, hc]

/-- What is no text begins a tag, or is nothing. -/
theorem head?_of_beginning {x : List Char} (hx : beginning x ≠ .text) :
    ∀ c ∈ x.head?, c = '<' := by
  cases x with
  | nil => exact fun c hc => by cases hc
  | cons d x =>
      intro c hc
      obtain rfl : d = c := Option.some.inj hc
      by_contra hne
      exact hx (beginning_text hne x)

/-- What some nodes begin with. -/
def beginningOf : List VNode → Beginning
  | [] => .nothing
  | .element _ _ _ :: _ => .element
  | .text _ :: _ => .text

/-- Only no nodes begin with nothing. -/
theorem eq_nil_of_beginningOf {ns : List VNode} (h : .nothing = beginningOf ns) : ns = [] := by
  rcases ns with _ | ⟨_ | _, _⟩
  · rfl
  · cases h
  · cases h

/-- Nodes that begin with text begin with a text. -/
theorem exists_text_of_beginningOf {ns : List VNode} (h : .text = beginningOf ns) :
    ∃ s rest, ns = .text s :: rest := by
  rcases ns with _ | ⟨_ | s, rest⟩
  · cases h
  · cases h
  · exact ⟨s, rest, rfl⟩

/-- Nodes that begin with a start tag begin with an element. -/
theorem exists_element_of_beginningOf {ns : List VNode} (h : .element = beginningOf ns) :
    ∃ tag attributes children rest, ns = .element tag attributes children :: rest := by
  rcases ns with _ | ⟨⟨tag, attributes, children⟩ | _, rest⟩
  · cases h
  · exact ⟨tag, attributes, children, rest, rfl⟩
  · cases h

/-- The content of an element with its end tag. -/
def contentChars (tag : String) (children : List VNode) : List Char :=
  if Html.isVoid tag then []
  else (guardNewline tag (children.head?.bind VNode.text?)).toList ++
    ((VNode.writeList false children).toList ++ '<' :: '/' :: (tag.toList ++ ['>']))

end Markup

namespace VNode

open Markup (Beginning beginning beginningOf attributeChars contentChars eq_nil_of_beginningOf
  exists_text_of_beginningOf exists_element_of_beginningOf)

variable {tag s : String} {attributes : OrderedMap String} {children ns ms : List VNode}
  {x y : List Char}

/-- The characters of an element. -/
theorem toList_write_element (h : IsReadable tag attributes children) :
    (write false (.element tag attributes children)).toList =
      '<' :: (tag.toList ++ (attributes.toList.flatMap attributeChars ++
        '>' :: contentChars tag children)) := by
  rw [write, h.lowercase.tag, OrderedMap.lowerKeys_eq_self h.lowercase.attributes,
    Markup.elementText, contentChars, Markup.openingTag, Markup.closingTag, h.escaped]
  split
  · simp only [String.toList_append, Markup.toList_join_attributeText]
    simp
  · simp only [String.toList_append, Markup.toList_join_attributeText]
    simp

/-- The characters of a text. -/
theorem toList_write_text (s : String) :
    (write false (.text s)).toList = Text.escapeChars s.toList := by
  rw [write, Markup.characterData, if_neg Bool.false_ne_true, Text.escape, String.toList_ofList]

/-- The characters of neighbouring nodes. -/
theorem toList_writeList_cons (n : VNode) (ns : List VNode) :
    (writeList false (n :: ns)).toList =
      (n.write false).toList ++ (writeList false ns).toList := by
  rw [writeList, String.toList_append]

/-- The markup of a text that is not empty begins with a character that begins no tag. -/
theorem exists_toList_write_text (hs : s ≠ "") :
    ∃ c cs, (write false (.text s)).toList = c :: cs ∧ c ≠ '<' ∧
      (c = '\n' ↔ s.toList.head? = some '\n') := by
  rw [toList_write_text]
  cases hlist : Text.escapeChars s.toList with
  | nil => exact absurd (String.toList_eq_nil_iff.mp (Text.escapeChars_eq_nil_iff.mp hlist)) hs
  | cons c cs =>
      have hmem : c ∈ Text.escapeChars s.toList := by
        rw [hlist]
        exact List.mem_cons_self ..
      refine ⟨c, cs, rfl, (Text.not_mark_of_mem_escapeChars hmem).1, ?_⟩
      rw [← Text.head?_escapeChars_eq_newline_iff, hlist, List.head?_cons, Option.some.injEq]

/-- **The markup of nodes shows what they begin with.** -/
theorem beginning_writeList (hns : AllElementsIn IsReadable ns) (hs : Separated ns)
    (hx : beginning x = .nothing) :
    beginning ((writeList false ns).toList ++ x) = beginningOf ns := by
  match ns with
  | [] => exact hx
  | .text s :: rest =>
      obtain ⟨c, cs, hchars, hc, -⟩ :=
        exists_toList_write_text (hs.nonempty s (List.mem_cons_self ..))
      rw [toList_writeList_cons, hchars]
      exact Markup.beginning_text hc _
  | .element tag attributes children :: rest =>
      have htag := hns.1.1.names.tag
      rw [toList_writeList_cons, toList_write_element hns.1.1]
      rw [Html.isTagName] at htag
      cases hlist : tag.toList with
      | nil => simp [hlist] at htag
      | cons c cs =>
          rw [hlist, Bool.and_eq_true] at htag
          -- no tag begins as an end tag does
          have hc : c ≠ '/' := by
            rintro rfl
            exact absurd htag.1 (by decide)
          exact Markup.beginning_openingTag hc _

/-- The line feed that guards a content is seen from the content. -/
theorem guardNewline_eq (hns : AllElementsIn IsReadable ns) (hs : Separated ns) (tag : String)
    (x : List Char) :
    (Markup.guardNewline tag (ns.head?.bind text?)).toList =
      if Html.dropsLeadingNewline tag = true ∧
          ((writeList false ns).toList ++ '<' :: x).head? = some '\n' then ['\n'] else [] := by
  have hfirst : (ns.head?.bind text?).any (fun text => text.toList.head? == some '\n') = true ↔
      ((writeList false ns).toList ++ '<' :: x).head? = some '\n' := by
    match ns with
    | [] => simp [writeList]
    | .text s :: rest =>
        obtain ⟨c, cs, hchars, -, hnewline⟩ :=
          exists_toList_write_text (hs.nonempty s (List.mem_cons_self ..))
        rw [toList_writeList_cons, hchars]
        simpa [text?] using hnewline.symm
    | .element tag attributes children :: rest =>
        rw [toList_writeList_cons, toList_write_element hns.1.1]
        simp [text?]
  have hnewline : "\n".toList = ['\n'] := by decide +kernel
  rw [Markup.guardNewline, apply_ite String.toList, hnewline, String.toList_empty]
  exact if_congr (by rw [Bool.and_eq_true, hfirst]) rfl rfl

/-- A line feed that depends on what stands behind it is read in one way. -/
theorem guard_inj {p : Prop} [Decidable p]
    (h : (if p ∧ x.head? = some '\n' then ['\n'] else []) ++ x =
      (if p ∧ y.head? = some '\n' then ['\n'] else []) ++ y) : x = y := by
  split at h
  · next hx =>
    split at h
    · exact List.append_cancel_left h
    · next hy => exact absurd ⟨hx.1, by rw [← List.nil_append y, ← h]; rfl⟩ hy
  · next hx =>
    split at h
    · next hy => exact absurd ⟨hy.1, by rw [← List.nil_append x, h]; rfl⟩ hx
    · exact h

/-- Behind a text an element begins, or the content is over. -/
theorem head?_behind_text (hns : AllElementsIn IsReadable (.text s :: ns))
    (hs : Separated (.text s :: ns)) (hx : beginning x = .nothing) :
    ∀ c ∈ ((writeList false ns).toList ++ x).head?, (c != '<') = false := by
  intro c hc
  rw [Markup.head?_of_beginning (fun htext => ?_) c hc]
  · rfl
  · rw [beginning_writeList hns.2 hs.tail hx] at htext
    rcases ns with _ | ⟨_ | _, _⟩
    · cases htext
    · cases htext
    · cases hs.behind_text

/-- A text is read in one way. -/
theorem writeText_inj {t : String} (hns : AllElementsIn IsReadable (.text s :: ns))
    (hms : AllElementsIn IsReadable (.text t :: ms)) (hs : Separated (.text s :: ns))
    (hs' : Separated (.text t :: ms)) (hx : beginning x = .nothing) (hy : beginning y = .nothing)
    (h : (writeList false (.text s :: ns)).toList ++ x =
      (writeList false (.text t :: ms)).toList ++ y) :
    s = t ∧ (writeList false ns).toList ++ x = (writeList false ms).toList ++ y := by
  rw [toList_writeList_cons, toList_writeList_cons, toList_write_text, toList_write_text,
    List.append_assoc, List.append_assoc] at h
  have hchars {cs : List Char} : ∀ c ∈ Text.escapeChars cs, (c != '<') = true :=
    fun c hc => bne_iff_ne.mpr (Text.not_mark_of_mem_escapeChars hc).1
  obtain ⟨hfirst, hrest⟩ := Markup.append_inj_of_stop hchars hchars
    (head?_behind_text hns hs hx) (head?_behind_text hms hs' hy) h
  exact ⟨String.toList_inj.mp (Text.escapeChars_injective hfirst), hrest⟩

/-- A start tag is read in one way. -/
theorem writeElement_inj {tag' : String} {attributes' : OrderedMap String}
    {children' : List VNode} (hread : IsReadable tag attributes children)
    (hread' : IsReadable tag' attributes' children')
    (h : (writeList false (.element tag attributes children :: ns)).toList ++ x =
      (writeList false (.element tag' attributes' children' :: ms)).toList ++ y) :
    tag = tag' ∧ attributes = attributes' ∧
      contentChars tag children ++ ((writeList false ns).toList ++ x) =
        contentChars tag' children' ++ ((writeList false ms).toList ++ y) := by
  rw [toList_writeList_cons, toList_writeList_cons, toList_write_element hread,
    toList_write_element hread'] at h
  simp only [List.cons_append, List.append_assoc, List.cons.injEq, true_and] at h
  obtain ⟨htag, htags⟩ := Markup.tag_inj hread.names.tag hread'.names.tag
    (Markup.endsAttribute_attributes _ _) (Markup.endsAttribute_attributes _ _) h
  obtain ⟨hattributes, hcontent⟩ := Markup.attributes_inj
    (fun a ha => hread.names.attributes a.1 (List.mem_map_of_mem ha))
    (fun a ha => hread'.names.attributes a.1 (List.mem_map_of_mem ha)) htags
  exact ⟨htag, OrderedMap.ext_toList hattributes, hcontent⟩

/-- A content that is not left out is read in one way if its nodes are. -/
theorem content_inj {children' : List VNode} (hvoid : ¬ Html.isVoid tag = true)
    (hns : AllElementsIn IsReadable children) (hms : AllElementsIn IsReadable children')
    (hs : Separated children) (hs' : Separated children')
    (hread : ∀ {x y : List Char}, beginning x = .nothing → beginning y = .nothing →
      (writeList false children).toList ++ x = (writeList false children').toList ++ y →
        children = children' ∧ x = y)
    (h : contentChars tag children ++ x = contentChars tag children' ++ y) :
    children = children' ∧ x = y := by
  rw [contentChars, contentChars, if_neg hvoid, if_neg hvoid] at h
  simp only [List.append_assoc, List.cons_append, List.nil_append] at h
  rw [guardNewline_eq hns hs tag ('/' :: (tag.toList ++ '>' :: x)),
    guardNewline_eq hms hs' tag ('/' :: (tag.toList ++ '>' :: y))] at h
  obtain ⟨hchildren, hend⟩ := hread rfl rfl (guard_inj h)
  simp only [List.cons.injEq, true_and, List.append_cancel_left_eq] at hend
  exact ⟨hchildren, hend⟩

/-- **The markup of readable trees determines the trees**, and what stands behind them. -/
theorem writeList_inj : ∀ (ns ms : List VNode) {x y : List Char}, AllElementsIn IsReadable ns →
    AllElementsIn IsReadable ms → Separated ns → Separated ms → beginning x = .nothing →
    beginning y = .nothing →
    (writeList false ns).toList ++ x = (writeList false ms).toList ++ y → ns = ms ∧ x = y
  | [], ms, x, y, hns, hms, hs, hs', hx, hy, h => by
      have hbegin := beginning_writeList hms hs' hy
      rw [← h, beginning_writeList hns hs hx] at hbegin
      obtain rfl := eq_nil_of_beginningOf hbegin
      rw [writeList, String.toList_empty, List.nil_append, List.nil_append] at h
      exact ⟨rfl, h⟩
  | .text s :: ns, ms, x, y, hns, hms, hs, hs', hx, hy, h => by
      have hbegin := beginning_writeList hms hs' hy
      rw [← h, beginning_writeList hns hs hx] at hbegin
      obtain ⟨t, ms, rfl⟩ := exists_text_of_beginningOf hbegin
      obtain ⟨rfl, hbehind⟩ := writeText_inj hns hms hs hs' hx hy h
      obtain ⟨rfl, hxy⟩ := writeList_inj ns ms hns.2 hms.2 hs.tail hs'.tail hx hy hbehind
      exact ⟨rfl, hxy⟩
  | .element tag attributes children :: ns, ms, x, y, hns, hms, hs, hs', hx, hy, h => by
      have hbegin := beginning_writeList hms hs' hy
      rw [← h, beginning_writeList hns hs hx] at hbegin
      obtain ⟨tag', attributes', children', ms, rfl⟩ := exists_element_of_beginningOf hbegin
      have hread := hns.1.1
      have hread' := hms.1.1
      obtain ⟨rfl, rfl, hcontent⟩ := writeElement_inj hread hread' h
      obtain ⟨hchildren, hbehind⟩ : children = children' ∧
          (writeList false ns).toList ++ x = (writeList false ms).toList ++ y := by
        by_cases hvoid : Html.isVoid tag = true
        · rw [contentChars, contentChars, if_pos hvoid, if_pos hvoid, List.nil_append,
            List.nil_append] at hcontent
          exact ⟨(hread.void hvoid).trans (hread'.void hvoid).symm, hcontent⟩
        · exact content_inj hvoid hns.1.2 hms.1.2 hread.separated hread'.separated
            (fun hx hy h => writeList_inj children children' hns.1.2 hms.1.2 hread.separated
              hread'.separated hx hy h) hcontent
      obtain ⟨hns', hxy⟩ := writeList_inj ns ms hns.2 hms.2 hs.tail hs'.tail hx hy hbehind
      exact ⟨by rw [hchildren, hns'], hxy⟩

end VNode

end TwinRender
