import TwinRender.Proofs.Markup.Outer
import TwinRender.Proofs.Markup.Values

/-!
# Elements with raw text

In some elements a parser reads no references and no tags but the end tag of the element. What is
written there is the text as it is, up to the first end tag with the name of the element; in a
script, one inside comment brackets and inside a second script does not count. So an element holds a
text that is written into it just if the text has no such end tag, and a script if the text does not
leave a second script open either. If not, the element holds less, or more, and what is behind it is
markup; but its place at the beginning of the document is its own.

## Main definitions

* `Markup.rawTextTags`: the elements that are read in this way.
* `Markup.splitText`: where a parser ends the text of such an element.
* `Markup.Contains`: texts that an element holds as they are written.

## Main results

* `Markup.splitText_closing`: **which texts are found as they were written**.
* `Markup.parse_rawText`: **what becomes of an element with raw text**.
-/

namespace TwinRender.Markup

open Builder (between)

/-- The elements whose text is read as it is. -/
def rawTextTags : List String :=
  ["script", "style", "noscript", "iframe", "xmp", "noembed", "noframes"]

/-! ### Where raw text ends -/

/-- An angle bracket behind a text begins no name of a tag in it, and continues none. -/
theorem closes_append {name : List Char} (hname : '<' ∉ name) (cs x : List Char) :
    closes name (cs ++ '<' :: x) = closes name cs := by
  rcases cs with _ | ⟨c, cs⟩
  · rfl
  by_cases hc : c = '/'
  · subst hc
    simp only [List.cons_append, closes]
    by_cases hlen : name.length ≤ cs.length
    · rw [List.take_append_of_le_length hlen, List.drop_append_of_le_length hlen]
      congr 1
      cases cs.drop name.length with
      | nil => rfl
      | cons d ds => rfl
    · -- the text is too short for the name, and the bracket is not in it
      have hshort : (cs.take name.length).map Char.toLower ≠ name := fun h => by
        have := congrArg List.length h
        simp at this
        omega
      have hlong : ((cs ++ '<' :: x).take name.length).map Char.toLower ≠ name := fun h => by
        refine hname (h ▸ List.mem_map.mpr ⟨'<', ?_, by decide⟩)
        rw [List.take_append, List.mem_append]
        right
        obtain ⟨k, hk⟩ : ∃ k, name.length - cs.length = k + 1 :=
          ⟨name.length - cs.length - 1, by omega⟩
        rw [hk, List.take_succ_cons]
        exact List.mem_cons_self ..
      rw [beq_eq_false_iff_ne.mpr hshort, beq_eq_false_iff_ne.mpr hlong, Bool.false_and,
        Bool.false_and]
  · have hother (ds : List Char) : closes name (c :: ds) = false := by
      rw [closes]
      rintro rest heq
      exact hc (List.cons.inj heq).1
    rw [List.cons_append, hother, hother]

/-- The end tag of an element ends its text. -/
theorem closes_self {name : List Char} (hlower : name.map Char.toLower = name) :
    closes name ('/' :: (name ++ ['>'])) = true := by
  simp only [closes, List.take_left', List.drop_left', hlower, beq_self_eq_true, Bool.true_and]
  rfl

/-- Nothing is lost where a text is split. -/
theorem splitRaw_append (name cs : List Char) :
    (splitRaw name cs).1 ++ (splitRaw name cs).2 = cs := by
  fun_induction splitRaw name cs with
  | case1 => rfl
  | case2 => rfl
  | case3 c cs _ content rest heq ih =>
      rw [heq] at ih
      rw [List.cons_append, ih]

/-- A text ends where an end tag begins, or nowhere. -/
theorem splitRaw_rest (name cs : List Char) :
    (splitRaw name cs).2 = [] ∨
      ∃ behind, (splitRaw name cs).2 = '<' :: behind ∧ closes name behind = true := by
  fun_induction splitRaw name cs with
  | case1 => exact Or.inl rfl
  | case2 c cs h =>
      rw [Bool.and_eq_true, beq_iff_eq] at h
      obtain ⟨rfl, hcloses⟩ := h
      exact Or.inr ⟨cs, rfl, hcloses⟩
  | case3 c cs _ content rest heq ih =>
      rw [heq] at ih
      exact ih

/-- A text is found as it was written just if no end tag stands in it. -/
theorem splitRaw_closing {name : List Char} (hname : '<' ∉ name)
    (hlower : name.map Char.toLower = name) (cs : List Char) :
    (splitRaw name (cs ++ '<' :: '/' :: (name ++ ['>']))).1 = cs ↔
      ∀ behind, '<' :: behind <:+ cs → closes name behind = false := by
  induction cs with
  | nil =>
      rw [List.nil_append, splitRaw, closes_self hlower]
      simp
  | cons c cs ih =>
      rw [List.cons_append, splitRaw, closes_append hname]
      by_cases hend : (c == '<' && closes name cs) = true
      · rw [if_pos hend]
        rw [Bool.and_eq_true, beq_iff_eq] at hend
        obtain ⟨rfl, hcloses⟩ := hend
        constructor
        · intro h
          cases h
        · intro h
          rw [h cs (List.suffix_refl _)] at hcloses
          cases hcloses
      · rw [if_neg hend]
        simp only [List.cons.injEq, true_and, List.suffix_cons_iff, ih]
        constructor
        · rintro h behind (⟨rfl, rfl⟩ | hbehind)
          · simpa using hend
          · exact h behind hbehind
        · exact fun h behind hbehind => h behind (Or.inr hbehind)

/-! ### Where a script ends -/

/-- The part of a script that a text ends in; nothing if an end tag in the text ends the script. -/
def ScriptPart.after (part : ScriptPart) : List Char → Option ScriptPart
  | [] => some part
  | c :: cs =>
    if part != .nested && c == '<' && closes "script".toList cs then none
    else (part.next c cs).after cs

/-- Nothing is lost where a script is split. -/
theorem splitScript_append (part : ScriptPart) (cs : List Char) :
    (splitScript part cs).1 ++ (splitScript part cs).2 = cs := by
  fun_induction splitScript part cs with
  | case1 => rfl
  | case2 => rfl
  | case3 part c cs _ content rest heq ih =>
      rw [heq] at ih
      rw [List.cons_append, ih]

/-- A script ends where an end tag begins, or nowhere. -/
theorem splitScript_rest (part : ScriptPart) (cs : List Char) :
    (splitScript part cs).2 = [] ∨ ∃ behind, (splitScript part cs).2 = '<' :: behind ∧
      closes ['s', 'c', 'r', 'i', 'p', 't'] behind = true := by
  fun_induction splitScript part cs with
  | case1 => exact Or.inl rfl
  | case2 part c cs h =>
      rw [Bool.and_eq_true, Bool.and_eq_true, beq_iff_eq] at h
      obtain ⟨⟨-, rfl⟩, hcloses⟩ := h
      exact Or.inr ⟨cs, rfl, hcloses⟩
  | case3 part c cs _ content rest heq ih =>
      rw [heq] at ih
      exact ih

/-- An angle bracket behind a text completes no mark without one. -/
theorem isPrefixOf_append {mark : List Char} (hmark : '<' ∉ mark) (cs x : List Char) :
    mark.isPrefixOf (cs ++ '<' :: x) = mark.isPrefixOf cs := by
  induction mark generalizing cs with
  | nil => simp
  | cons m mark ih =>
      rw [List.mem_cons, not_or] at hmark
      cases cs with
      | nil =>
          have hne : (m == '<') = false := beq_eq_false_iff_ne.mpr (Ne.symm hmark.1)
          change (m == '<' && mark.isPrefixOf x) = false
          rw [hne, Bool.false_and]
      | cons c cs => rw [List.cons_append, List.isPrefixOf, List.isPrefixOf, ih hmark.2]

/-- The part behind a character does not depend on an angle bracket behind the text. -/
theorem ScriptPart.next_append (part : ScriptPart) (c : Char) (cs x : List Char) :
    part.next c (cs ++ '<' :: x) = part.next c cs := by
  have hopen : ['!', '-', '-'].isPrefixOf (cs ++ '<' :: x) = ['!', '-', '-'].isPrefixOf cs :=
    isPrefixOf_append (by decide) cs x
  have hclose : ['-', '>'].isPrefixOf (cs ++ '<' :: x) = ['-', '>'].isPrefixOf cs :=
    isPrefixOf_append (by decide) cs x
  have hend : closes ['s', 'c', 'r', 'i', 'p', 't'] (cs ++ '<' :: x) =
      closes ['s', 'c', 'r', 'i', 'p', 't'] cs := closes_append (by decide) cs x
  have hname : namesScript (cs ++ '<' :: x) = namesScript cs :=
    closes_append (by decide) ('/' :: cs) x
  simp only [ScriptPart.next, hopen, hclose, hend, hname]

/-- A script is found as it was written just if no end tag in it ends it, and it does not end in a
second script. -/
theorem splitScript_closing (part : ScriptPart) (cs : List Char) :
    (splitScript part (cs ++ '<' :: '/' :: ("script".toList ++ ['>']))).1 = cs ↔
      ∃ last, part.after cs = some last ∧ last ≠ .nested := by
  have hname : "script".toList = ['s', 'c', 'r', 'i', 'p', 't'] := by decide +kernel
  induction cs generalizing part with
  | nil =>
      rw [hname]
      -- in an inner script the end tag ends that one, and nothing ends the outer one
      cases part with
      | outside | inside | nested => simp [ScriptPart.after]; decide
  | cons c cs ih =>
      rw [hname] at ih ⊢
      rw [List.cons_append, splitScript, closes_append (by decide), ScriptPart.next_append,
        ScriptPart.after, hname]
      split
      · simp
      · simp only [List.cons.injEq, true_and]
        exact ih _

/-! ### Where the text of an element ends -/

/-- The text of an element with raw text, and what stands from its end tag on. -/
def splitText (tag : String) (cs : List Char) : List Char × List Char :=
  if tag = "script" then splitScript .outside cs else splitRaw tag.toList cs

/-- The text has no end tag that ends the element, and leaves no inner script open. -/
def Contains (tag : String) (cs : List Char) : Prop :=
  if tag = "script" then ∃ last, ScriptPart.outside.after cs = some last ∧ last ≠ .nested
  else ∀ behind, '<' :: behind <:+ cs → closes tag.toList behind = false

/-- Whether an element contains a text is seen at the ends of the text. -/
theorem contains_iff_tails (tag : String) (cs : List Char) : Contains tag cs ↔
    if tag = "script" then (ScriptPart.outside.after cs).any (· != .nested) = true
    else ∀ t ∈ cs.tails, t.head? = some '<' → closes tag.toList t.tail = false := by
  rw [Contains]
  split
  · simp only [Option.any_eq_true, bne_iff_ne]
  · simp only [List.mem_tails]
    constructor
    · intro h t ht hhead
      obtain ⟨behind, rfl⟩ := List.head?_eq_some_iff.mp hhead
      exact h behind ht
    · exact fun h behind hbehind => h _ hbehind rfl

instance (tag : String) (cs : List Char) : Decidable (Contains tag cs) :=
  decidable_of_iff _ (contains_iff_tails tag cs).symm

/-- Nothing is lost where the text of an element is split off. -/
theorem splitText_append (tag : String) (cs : List Char) :
    (splitText tag cs).1 ++ (splitText tag cs).2 = cs := by
  rw [splitText]
  split
  · exact splitScript_append .outside cs
  · exact splitRaw_append tag.toList cs

/-- The text of an element ends where an end tag begins, or nowhere. -/
theorem splitText_rest (tag : String) (cs : List Char) :
    (splitText tag cs).2 = [] ∨
      ∃ behind, (splitText tag cs).2 = '<' :: behind ∧ closes tag.toList behind = true := by
  rw [splitText]
  split
  · next h =>
    subst h
    exact splitScript_rest .outside cs
  · exact splitRaw_rest tag.toList cs

/-- The names of elements with raw text are written in lower case, and have no angle bracket. -/
theorem name_of_rawTextTags {tag : String} (htag : tag ∈ rawTextTags) :
    Html.isTagName tag = true ∧ tag.toLower = tag := by
  have hall : ∀ tag ∈ rawTextTags, Html.isTagName tag = true ∧ tag.toLower = tag := by
    decide +kernel
  exact hall tag htag

/-- **Which texts are found as they were written** in an element with raw text. -/
theorem splitText_closing {tag : String} (htag : tag ∈ rawTextTags) (cs : List Char) :
    (splitText tag (cs ++ '<' :: '/' :: (tag.toList ++ ['>']))).1 = cs ↔ Contains tag cs := by
  obtain ⟨hname, hlower⟩ := name_of_rawTextTags htag
  have hbracket : '<' ∉ tag.toList := fun h =>
    absurd (Html.isTagChar_of_mem hname _ h) (by decide)
  have hmap : tag.toList.map Char.toLower = tag.toList := by
    rw [← String.toList_map]
    exact congrArg String.toList hlower
  rw [splitText, Contains]
  split
  · next h =>
    subst h
    exact splitScript_closing .outside cs
  · exact splitRaw_closing hbracket hmap cs

/-- An end tag ends a style, but not the second script in a script. -/
example : ¬ Contains "style" "</STYLE >".toList ∧ ¬ Contains "script" "<!--<script>".toList ∧
    Contains "script" "<!--<script></script>-->".toList := by
  decide +kernel

/-- A text without angle brackets does not leave a script, and opens no part of it. -/
theorem ScriptPart.after_of_not_mem {cs : List Char} (h : '<' ∉ cs) :
    ScriptPart.outside.after cs = some .outside := by
  induction cs with
  | nil => rfl
  | cons c cs ih =>
      rw [List.mem_cons, not_or] at h
      have hc : (c == '<') = false := beq_eq_false_iff_ne.mpr (Ne.symm h.1)
      have hnext : ScriptPart.outside.next c cs = .outside := by
        rw [ScriptPart.next, hc, Bool.false_and, if_neg Bool.false_ne_true]
      rw [ScriptPart.after, hc, Bool.and_false, Bool.false_and, if_neg Bool.false_ne_true, hnext,
        ih h.2]

/-- An element contains a text without angle brackets. -/
theorem contains_of_not_mem (tag : String) {cs : List Char} (h : '<' ∉ cs) : Contains tag cs := by
  rw [Contains]
  split
  · exact ⟨.outside, ScriptPart.after_of_not_mem h, by decide⟩
  · exact fun behind hbehind => absurd (hbehind.mem (List.mem_cons_self ..)) h

/-- What begins an end tag is read as one, or as nothing if the tag has no end. -/
theorem angle_of_closes {tag : String} (htag : Html.isTagName tag = true) {behind : List Char}
    (h : closes tag.toList behind = true) :
    angle false behind = ([.flaw], []) ∨
      ∃ flawed name rest, angle false behind = (marks flawed ++ [.endTag name], rest) := by
  obtain ⟨n, ns, hlist, hn⟩ := exists_startsTagName htag
  unfold closes at h
  split at h
  · next rest =>
    rw [Bool.and_eq_true, beq_iff_eq, hlist] at h
    cases rest with
    | nil => cases h.1
    | cons r rest =>
        have hlower : r.toLower = n := (List.cons.inj h.1).1
        have hr : startsTagName r = true := by
          rw [startsTagName, ← Char.isAlpha_toLower_eq_isAlpha, hlower]
          exact hn
        rw [angle_endTag hr, endTag]
        split
        · exact Or.inl rfl
        · exact Or.inr ⟨_, _, _, rfl⟩
  · cases h

/-! ### Building an element with raw text -/

namespace Builder

/-- The state in the text of an element. -/
def reading (recoveries : List Recovery) (spine : Spine) (fresh : Nat) (content : Content) :
    Builder :=
  { between recoveries spine fresh false with mode := .text, content }

variable {rs : List Recovery} {s : Spine} {n : Nat} {skip : Bool} {f : Frame} {content : Content}

/-- How the text of an element is read. -/
def contentOf (tag : String) : Content := if tag = "script" then .script else .raw tag

/-- **The start tag of an element with raw text** opens it, where no paragraph is open. -/
theorem take_startTag_rawText {tag : Tag} (hs : s.IsOrdinary) (hclosing : tag.selfClosing = false)
    (hp : ∀ f ∈ s.frames, f.name ≠ "p") (htag : tag.name ∈ rawTextTags) :
    (between rs s n skip).take (.startTag tag) =
      reading rs (s.push ⟨n, .html, tag.name, .ofList tag.attributes, true, false, []⟩) (n + 1)
        (contentOf tag.name) := by
  have hrule : (startRule tag.name = .raw ∨ startRule tag.name = .rawBlock) ∧
      contentOf tag.name = .raw tag.name ∨
      startRule tag.name = .script ∧ contentOf tag.name = .script := by
    have hall : ∀ name ∈ rawTextTags, (startRule name = .raw ∨ startRule name = .rawBlock) ∧
        contentOf name = .raw name ∨ startRule name = .script ∧ contentOf name = .script := by
      decide +kernel
    exact hall tag.name htag
  refine take_startTag_of_done hs hclosing true ?_
  rw [startInBody]
  rcases hrule with ⟨hrule | hrule, hcontent⟩ | ⟨hrule, hcontent⟩
  · rw [hrule, hcontent]
    rfl
  · rw [hrule, hcontent]
    change Verdict.done ((between rs s n false).closeParagraphInScope.reopen.insertText tag _) _ = _
    rw [closeParagraphInScope_between hp]
    rfl
  · rw [hrule, hcontent]
    rfl

/-- In the text of an element the rules of texts are in force. -/
theorem verdict_reading (hf : f.IsOrdinary) (t : Token) :
    (reading rs (s.push f) n content).verdict t = (reading rs (s.push f) n content).inText t := by
  have hforeign : (reading rs (s.push f) n content).isForeign t = false := by
    change (f.vocabulary != .html && _) = false
    rw [hf.html]
    rfl
  rw [verdict, hforeign, if_neg Bool.false_ne_true]
  rfl

/-- In the text of an element a token is dealt with at once, the end of the markup apart. -/
theorem take_of_inText (hf : f.IsOrdinary) {t : Token} {b : Builder} {slash : Bool}
    (hflaw : t ≠ .flaw) (hstart : ∀ tag, t ≠ .startTag tag)
    (h : (reading rs (s.push f) n content).inText t = .done b slash) :
    (reading rs (s.push f) n content).take t = b := by
  have hsettle (fuel : Nat) : settle t (fuel + 1) (reading rs (s.push f) n content) = b := by
    rw [settle, verdict_reading hf, h]
    cases t with
    | startTag tag => exact absurd rfl (hstart tag)
    | _ => rfl
  cases t with
  | flaw => exact absurd rfl hflaw
  | _ => exact hsettle _

/-- **The characters of raw text** are put into their element. -/
theorem foldl_take_raw (hf : f.IsOrdinary) (cs : List Char) :
    (cs.map Token.char).foldl take (reading rs (s.push f) n content) =
      reading rs ((s.push f).attachAll (textNodes cs)) n content := by
  induction cs generalizing f with
  | nil => rfl
  | cons c cs ih =>
      have hone : (reading rs (s.push f) n content).take (.char c) =
          reading rs ((s.push f).attach (.text (String.singleton c)) false) n content :=
        take_of_inText hf (by simp) (by simp) rfl
      have hf' : Frame.IsOrdinary
          { f with children := pushChild (.text (String.singleton c)) f.children } :=
        ⟨hf.html, hf.listed, hf.unfostered, hf.content⟩
      have hrest := attachAll_textNodes (s.push f) [c] cs
      rw [List.map_cons, List.foldl_cons, hone, Spine.attach_push, ih hf', ← Spine.attach_push]
      exact congrArg (fun s => reading rs s n content) hrest

/-- A flaw is overlooked. -/
theorem foldl_take_marks_reading (flawed : Bool) :
    ∃ rs', (marks flawed).foldl take (reading rs s n content) = reading rs' s n content := by
  cases flawed with
  | false => exact ⟨rs, rfl⟩
  | true => exact ⟨.malformed :: rs, rfl⟩

/-- The end of the markup closes the element too. -/
theorem take_stop_reading (hf : f.IsOrdinary) :
    (reading rs (Spine.push ⟨[], []⟩ f) n content).take .stop =
      between (.misplaced :: rs) ⟨[], [f.finish]⟩ n false := by
  have hpop : (Spine.push ⟨[], []⟩ f).pop = ⟨[], [f.finish]⟩ := Spine.pop_push isOrdinary_nil hf
  have hverdict : (reading rs (Spine.push ⟨[], []⟩ f) n content).verdict .stop =
      .again (between (.misplaced :: rs) ⟨[], [f.finish]⟩ n false) := by
    rw [verdict_reading hf, ← hpop]
    rfl
  have hsettle (fuel : Nat) :
      settle .stop (fuel + 2) (reading rs (Spine.push ⟨[], []⟩ f) n content) =
      between (.misplaced :: rs) ⟨[], [f.finish]⟩ n false := by
    rw [settle, hverdict]
    rfl
  exact hsettle _

/-- **An end tag** closes the element around a text. -/
theorem take_endTag_reading (hs : s.IsOrdinary) (hf : f.IsOrdinary) (name : String) :
    (reading rs (s.push f) n content).take (.endTag name) =
      between rs (s.attach f.finish false) n false := by
  rw [take_of_inText hf (by simp) (by simp) rfl, ← Spine.pop_push hs hf]
  rfl

end Builder

/-! ### An element with raw text and nothing else -/

open Builder (reading contentOf)

/-- Raw text without null characters is found as it is. -/
theorem rawTokens_eq_map {cs : List Char} (hnull : '\x00' ∉ cs) : rawTokens cs = cs.map .char := by
  rw [rawTokens, List.map_eq_flatMap]
  refine List.flatMap_congr fun c hc => ?_
  rw [if_neg]
  rw [beq_iff_eq]
  rintro rfl
  exact hnull hc

/-- In the text of an element, the scanner takes the text and the end tag behind it. -/
theorem scan_contentOf {tag : String} (cs : List Char) (foreign : Bool) :
    scan (contentOf tag) foreign cs =
      withEndTag (rawTokens (splitText tag cs).1) (splitText tag cs).2 := by
  rw [contentOf, splitText]
  split <;> rfl

/-- The element that is open while its text is read, with the text read so far. -/
def opened (tag : String) (cs : List Char) : Frame :=
  ⟨0, .html, tag, .empty, true, false, pushChildren (textNodes cs) []⟩

section

variable {tag : String} (htag : tag ∈ rawTextTags) (rs : List Recovery) (n : Nat)

include htag

/-- The open element is closed by name and stands where it was found. -/
theorem isOrdinary_opened (cs : List Char) : (opened tag cs).IsOrdinary := by
  refine ⟨rfl, rfl, rfl, ?_⟩
  rintro rfl
  exact absurd htag (by decide)

/-- The open element is finished with its text. -/
theorem finish_opened (cs : List Char) :
    (opened tag cs).finish = .element tag .empty (textNodes cs) := by
  rw [(isOrdinary_opened htag cs).finish]
  exact congrArg _ (reverse_pushChildren_textNodes cs)

/-- The text is put into the open element, and then comes what stands from its end tag on. -/
theorem run_text {cs : List Char} (hcs : cs ≠ []) (hnull : '\x00' ∉ cs) :
    (reading rs (Spine.push ⟨[], []⟩ (opened tag [])) n (contentOf tag)).run cs =
      ((withEndTag [] (splitText tag cs).2).1.foldl Builder.take (reading rs
        (Spine.push ⟨[], []⟩ (opened tag (splitText tag cs).1)) n (contentOf tag))).run
          (withEndTag [] (splitText tag cs).2).2 := by
  have hcontent : (reading rs (Spine.push ⟨[], []⟩ (opened tag [])) n (contentOf tag)).content =
      contentOf tag := rfl
  have htokens : rawTokens (splitText tag cs).1 = (splitText tag cs).1.map .char :=
    rawTokens_eq_map fun h => hnull (splitText_append tag cs ▸ List.mem_append_left _ h)
  have hend (tokens : List Token) (rest : List Char) :
      withEndTag tokens rest = (tokens ++ (withEndTag [] rest).1, (withEndTag [] rest).2) := by
    cases rest with
    | nil => simp [withEndTag]
    | cons c rest => rfl
  have hput := @Builder.foldl_take_raw rs ⟨[], []⟩ n _ (contentOf tag)
    (isOrdinary_opened htag []) (splitText tag cs).1
  rw [Spine.attachAll_push] at hput
  rw [Builder.run, dif_neg hcs]
  simp only [hcontent, scan_contentOf]
  rw [hend, htokens, List.foldl_append, hput]
  rfl

/-- Behind the end of the markup there is just the element. -/
theorem finish_run_nil (cs : List Char) :
    ((reading rs (Spine.push ⟨[], []⟩ (opened tag cs)) n (contentOf tag)).run []).spine.finish =
      [.element tag .empty (textNodes cs)] := by
  rw [Builder.run, dif_pos rfl, Builder.take_stop_reading (isOrdinary_opened htag cs),
    finish_opened htag]
  exact finish_roots [.element tag .empty (textNodes cs)]

/-- Behind the text comes the element, whatever stands from its end tag on. -/
theorem finish_run_rest (cs : List Char) {rest : List Char}
    (hrest : rest = [] ∨ ∃ behind, rest = '<' :: behind ∧ closes tag.toList behind = true) :
    ∃ more, (((withEndTag [] rest).1.foldl Builder.take
      (reading rs (Spine.push ⟨[], []⟩ (opened tag cs)) n (contentOf tag))).run
        (withEndTag [] rest).2).spine.finish = .element tag .empty (textNodes cs) :: more := by
  rcases hrest with rfl | ⟨behind, rfl, hcloses⟩
  · exact ⟨[], finish_run_nil htag rs n cs⟩
  have hend : withEndTag [] ('<' :: behind) = angle false behind := rfl
  rw [hend]
  rcases angle_of_closes (name_of_rawTextTags htag).1 hcloses with h | ⟨flawed, name, rest, h⟩
  · rw [h]
    exact ⟨[], finish_run_nil htag (.malformed :: rs) n cs⟩
  · -- what follows is markup of any kind, and is put behind the element
    obtain ⟨rs', hmarks⟩ := @Builder.foldl_take_marks_reading rs
      (Spine.push ⟨[], []⟩ (opened tag cs)) n (contentOf tag) flawed
    rw [h, List.foldl_append, hmarks, List.foldl_cons, List.foldl_nil,
      Builder.take_endTag_reading isOrdinary_nil (isOrdinary_opened htag cs), finish_opened htag]
    obtain ⟨more, hmore⟩ := Builder.prefix_finish_run
      (between rs' ⟨[], [.element tag .empty (textNodes cs)]⟩ n false) (by rintro t ht; cases ht)
      rest
    exact ⟨more, hmore.symm⟩

end

/-- **What becomes of an element with raw text.** It comes first, with the text up to its end; and
if it contains the text that was written, it holds that text, and nothing else comes of it. -/
theorem parse_rawText {tag : String} (htag : tag ∈ rawTextTags) {cs : List Char}
    (hcarriage : '\r' ∉ cs) (hnull : '\x00' ∉ cs) {text : String}
    (htext : text.toList =
      '<' :: (tag.toList ++ '>' :: (cs ++ '<' :: '/' :: (tag.toList ++ ['>'])))) :
    (∃ more, parse text = .element tag .empty
      (textNodes (splitText tag (cs ++ '<' :: '/' :: (tag.toList ++ ['>']))).1) :: more) ∧
      (Contains tag cs → parse text = [.element tag .empty (textNodes cs)]) := by
  obtain ⟨hname, hlower⟩ := name_of_rawTextTags htag
  have htagCarriage : '\r' ∉ tag.toList := fun h =>
    absurd (Html.isTagChar_of_mem hname _ h) (by decide)
  have htagNull := null_not_mem_of_isTagName hname
  have hprepare : prepare text.toList = text.toList :=
    prepare_eq_self (by simp [htext, htagCarriage, hcarriage]) (by simp [htext])
  have htail (rest : List Char) : tagTail? [] false ('>' :: rest) = some ⟨[], false, false, rest⟩ :=
    tagTail?_of_close rfl
  have hopens : (between [] ⟨[], []⟩ 0 false).take (.startTag ⟨tag, [], false⟩) =
      reading [] (Spine.push ⟨[], []⟩ (opened tag [])) 1 (contentOf tag) :=
    Builder.take_startTag_rawText isOrdinary_nil rfl (fun _ hf => absurd hf List.not_mem_nil) htag
  have hbuild : build text = (reading [] (Spine.push ⟨[], []⟩ (opened tag [])) 1
      (contentOf tag)).run (cs ++ '<' :: '/' :: (tag.toList ++ ['>'])) := by
    rw [build, hprepare, htext]
    change (between [] ⟨[], []⟩ 0 false).run _ = _
    rw [Builder.run_of_scan isOrdinary_nil (List.cons_ne_nil _ _)
      (scan_startTag_of_tail hname (Or.inr rfl) (htail _) false), hlower, ← hopens]
    rfl
  have hne : cs ++ '<' :: '/' :: (tag.toList ++ ['>']) ≠ [] := by simp
  have hclean : '\x00' ∉ cs ++ '<' :: '/' :: (tag.toList ++ ['>']) := by simp [hnull, htagNull]
  have hrun := run_text htag [] 1 hne hclean
  refine ⟨?_, fun hcontains => ?_⟩
  · rw [parse, hbuild, hrun]
    exact finish_run_rest htag [] 1 _ (splitText_rest tag _)
  · -- the text ends where it was written to end, and behind the end tag there is nothing
    have hfirst := (splitText_closing htag cs).mpr hcontains
    have hsplit := splitText_append tag (cs ++ '<' :: '/' :: (tag.toList ++ ['>']))
    rw [hfirst, List.append_cancel_left_eq] at hsplit
    have hend : withEndTag [] ('<' :: '/' :: (tag.toList ++ ['>'])) = ([.endTag tag.toLower], []) :=
      scan_endTag hname false []
    rw [parse, hbuild, hrun, hfirst, hsplit, hend, List.foldl_cons, List.foldl_nil,
      Builder.take_endTag_reading isOrdinary_nil (isOrdinary_opened htag cs), finish_opened htag]
    exact finish_run [] [.element tag .empty (textNodes cs)] 1 false

end TwinRender.Markup
