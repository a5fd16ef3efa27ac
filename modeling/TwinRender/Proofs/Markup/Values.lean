import TwinRender.Document.Parsed
import TwinRender.Proofs.Markup.InPlace
import TwinRender.Proofs.Markup.Scanning

/-!
# What becomes of escaped values

An escaped text or value is read back as it was, but for two characters that escaping leaves alone.
A parser reads every kind of line end as a line feed, so a carriage return does not come back; and
it drops a null character from a text, and replaces one in a value. Everything else survives,
control characters included.

## Main definitions

* `Markup.readText`, `Markup.readValue`: what a parser finds where a text or a value was written.
* `Markup.Survives`: strings that come back as they were.

## Main results

* `Markup.normalizeNewlines_escapeChars`: line ends are read alike before and behind escaping.
* `Markup.readText_eq_iff`, `Markup.readValue_eq_iff`: what survives.
* `Markup.parse_element`: an element with a text in it, or with none.
* `Markup.parse_escaped`: **what becomes of every escaped text and of every escaped value**.
-/

namespace TwinRender

namespace Markup

open Builder (between)
open Text (escapeChars)

/-! ### Line ends -/

/-- What holds no carriage return is read as it is. -/
theorem normalizeNewlines_append_of_not_mem {a : List Char} (h : '\r' ∉ a) (b : List Char) :
    normalizeNewlines (a ++ b) = a ++ normalizeNewlines b := by
  induction a with
  | nil => rfl
  | cons c a ih =>
      rw [List.mem_cons, not_or] at h
      rw [List.cons_append, normalizeNewlines, ih h.2, List.cons_append]
      · rintro cs rfl
        exact absurd rfl h.1
      · rintro rfl
        exact absurd rfl h.1

/-- A carriage return is read as a line feed, where none follows. -/
theorem normalizeNewlines_carriage {cs : List Char} (h : cs.head? ≠ some '\n') :
    normalizeNewlines ('\r' :: cs) = '\n' :: normalizeNewlines cs := by
  rw [normalizeNewlines]
  rintro rest rfl
  exact h rfl

/-- Line ends are read part by part, unless the parts meet within one. -/
theorem normalizeNewlines_append (a : List Char) {b : List Char} (h : b.head? ≠ some '\n') :
    normalizeNewlines (a ++ b) = normalizeNewlines a ++ normalizeNewlines b := by
  fun_induction normalizeNewlines a with
  | case1 => rfl
  | case2 cs ih => rw [List.cons_append, List.cons_append, normalizeNewlines, ih, List.cons_append]
  | case3 cs hcs ih =>
      have hhead : (cs ++ b).head? ≠ some '\n' := by
        cases cs with
        | nil => exact h
        | cons c cs =>
            rw [List.cons_append, List.head?_cons, ne_eq, Option.some.injEq]
            rintro rfl
            exact hcs cs rfl
      rw [List.cons_append, normalizeNewlines_carriage hhead, ih, List.cons_append]
  | case4 c cs hpair hcarriage ih =>
      have hone : '\r' ∉ [c] := fun hmem => hcarriage (List.mem_singleton.mp hmem).symm
      rw [List.cons_append, ← List.singleton_append,
        normalizeNewlines_append_of_not_mem hone, ih]
      rfl

/-- No carriage return is left. -/
theorem carriage_not_mem_normalizeNewlines (cs : List Char) : '\r' ∉ normalizeNewlines cs := by
  fun_induction normalizeNewlines cs with
  | case1 => exact List.not_mem_nil
  | case2 cs ih => simpa using ih
  | case3 cs _ ih => simpa using ih
  | case4 c cs _ hcarriage ih =>
      rw [List.mem_cons, not_or]
      exact ⟨fun h => hcarriage h.symm, ih⟩

/-- **Line ends are read alike before and behind escaping.** -/
theorem normalizeNewlines_escapeChars (cs : List Char) :
    normalizeNewlines (escapeChars cs) = escapeChars (normalizeNewlines cs) := by
  have hcarriage : Text.escapeChar '\r' = ['\r'] := by decide
  have hfeed : Text.escapeChar '\n' = ['\n'] := by decide
  fun_induction normalizeNewlines cs with
  | case1 => rfl
  | case2 cs ih =>
      rw [Text.escapeChars_cons, Text.escapeChars_cons, Text.escapeChars_cons, hcarriage, hfeed,
        ← ih]
      rfl
  | case3 cs hcs ih =>
      have hhead : (escapeChars cs).head? ≠ some '\n' := by
        rw [ne_eq, Text.head?_escapeChars_eq_newline_iff]
        cases cs with
        | nil => simp
        | cons c cs =>
            rw [List.head?_cons, Option.some.injEq]
            rintro rfl
            exact hcs cs rfl
      rw [Text.escapeChars_cons, Text.escapeChars_cons, hcarriage, hfeed, List.singleton_append,
        normalizeNewlines_carriage hhead, ih]
      rfl
  | case4 c cs _ hne ih =>
      have hone : '\r' ∉ Text.escapeChar c := fun hmem => by
        have hc : '\r' ∈ escapeChars [c] :=
          List.mem_flatMap.mpr ⟨c, List.mem_singleton_self c, hmem⟩
        exact hne (List.mem_singleton.mp (mem_of_mem_escapeChars hc (by decide))).symm
      rw [Text.escapeChars_cons, normalizeNewlines_append_of_not_mem hone, ih,
        Text.escapeChars_cons]

/-- The characters before and behind an escaped text in markup do not matter for its line ends. -/
theorem prepare_escaped {before behind : List Char} (hbefore : '\r' ∉ '<' :: before)
    (hbehind : '\r' ∉ behind) (hhead : behind.head? ≠ some '\n') (cs : List Char) :
    prepare ('<' :: (before ++ (escapeChars cs ++ behind))) =
      '<' :: (before ++ (escapeChars (normalizeNewlines cs) ++ behind)) := by
  have hmark : prepare ('<' :: (before ++ (escapeChars cs ++ behind))) =
      normalizeNewlines ('<' :: before ++ (escapeChars cs ++ behind)) := rfl
  rw [hmark, normalizeNewlines_append_of_not_mem hbefore, normalizeNewlines_append _ hhead,
    normalizeNewlines_escapeChars, normalizeNewlines_eq_self hbehind]
  rfl

/-! ### What survives -/

/-- The text that a parser finds where a text was written. -/
def readText (s : String) : String :=
  String.ofList ((normalizeNewlines s.toList).filter (· != '\x00'))

/-- The value that a parser finds where a value was written. -/
def readValue (s : String) : String := String.ofList (replaceNulls (normalizeNewlines s.toList))

/-- The string holds no character that a parser drops or replaces. -/
def Survives (s : String) : Prop := '\r' ∉ s.toList ∧ '\x00' ∉ s.toList

instance (s : String) : Decidable (Survives s) :=
  inferInstanceAs (Decidable ('\r' ∉ s.toList ∧ '\x00' ∉ s.toList))

/-- **The texts that survive.** -/
theorem readText_eq_iff {s : String} : readText s = s ↔ Survives s := by
  refine ⟨fun h => ?_, fun ⟨hcarriage, hnull⟩ => ?_⟩
  · rw [← String.toList_inj, readText, String.toList_ofList] at h
    rw [Survives, ← h, List.mem_filter, List.mem_filter]
    exact ⟨fun hmem => carriage_not_mem_normalizeNewlines _ hmem.1,
      fun hmem => absurd hmem.2 (by decide)⟩
  · rw [readText, normalizeNewlines_eq_self hcarriage, List.filter_eq_self.mpr,
      String.ofList_toList]
    intro c hc
    rw [bne_iff_ne]
    rintro rfl
    exact hnull hc

/-- **The values that survive.** -/
theorem readValue_eq_iff {s : String} : readValue s = s ↔ Survives s := by
  refine ⟨fun h => ?_, fun ⟨hcarriage, hnull⟩ => ?_⟩
  · rw [← String.toList_inj, readValue, String.toList_ofList] at h
    rw [Survives, ← h, replaceNulls]
    refine ⟨fun hmem => ?_, fun hmem => ?_⟩
    · obtain ⟨c, hc, heq⟩ := List.mem_map.mp hmem
      split at heq
      · exact absurd heq (by decide)
      · exact carriage_not_mem_normalizeNewlines _ (heq ▸ hc)
    · obtain ⟨c, -, heq⟩ := List.mem_map.mp hmem
      split at heq
      · exact absurd heq (by decide)
      · next hne => exact hne (by rw [heq]; decide)
  · rw [readValue, normalizeNewlines_eq_self hcarriage, replaceNulls_eq_self hnull,
      String.ofList_toList]

/-! ### Texts in their place -/

/-- A text as a node, unless it is empty. -/
def textNodes (cs : List Char) : List Node := if cs = [] then [] else [.text (String.ofList cs)]

/-- Texts that are put into their place one after the other are one text. -/
theorem attachAll_textNodes (s : Spine) (a b : List Char) :
    (s.attachAll (textNodes a)).attachAll (textNodes b) = s.attachAll (textNodes (a ++ b)) := by
  by_cases ha : a = []
  · subst ha
    rfl
  · by_cases hb : b = []
    · subst hb
      rw [List.append_nil]
      rfl
    · have hab : a ++ b ≠ [] := List.append_ne_nil_of_left_ne_nil ha b
      rw [textNodes, textNodes, textNodes, if_neg ha, if_neg hb, if_neg hab, String.ofList_append]
      exact s.attach_text_text _ _

/-- An element without other children holds a text that is put into it. -/
theorem reverse_pushChildren_textNodes (cs : List Char) :
    (pushChildren (textNodes cs) []).reverse = textNodes cs := by
  rw [textNodes]
  split <;> rfl

/-- **The characters of a text** are put into their place, without the null characters. -/
theorem foldl_take_charTokens {s : Spine} (hs : s.IsOrdinary) (cs : List Char) (n : Nat)
    (rs : List Recovery) {skip : Bool} (hskip : (skip && cs.head? == some '\n') = false) :
    ∃ rs' skip', (charTokens cs).foldl Builder.take (between rs s n skip) =
      between rs' (s.attachAll (textNodes (cs.filter (· != '\x00')))) n skip' := by
  induction cs generalizing s rs skip with
  | nil => exact ⟨rs, skip, rfl⟩
  | cons c cs ih =>
      have hcons : charTokens (c :: cs) = charTokens [c] ++ charTokens cs := by
        simp [charTokens]
      rw [hcons, List.foldl_append]
      by_cases hc : c = '\x00'
      · subst hc
        obtain ⟨rs', skip', hrest⟩ := ih hs (.misplaced :: .malformed :: rs)
          (show (false && cs.head? == some '\n') = false from rfl)
        refine ⟨rs', skip', ?_⟩
        have hnull : (charTokens ['\x00']).foldl Builder.take (between rs s n skip) =
            between (.misplaced :: .malformed :: rs) s n false := by
          rw [← Builder.take_null hs, ← Builder.take_flaw]
          rfl
        rw [hnull, hrest, List.filter_cons_of_neg (by decide)]
      · have hone : charTokens [c] = [.char c] := charTokens_eq_map (by simpa using Ne.symm hc)
        have hkept : (c :: cs).filter (· != '\x00') = [c] ++ cs.filter (· != '\x00') :=
          List.filter_cons_of_pos (by simpa using hc)
        obtain ⟨rs', skip', hrest⟩ := ih (hs.attach (.text (String.singleton c))) rs
          (show (false && cs.head? == some '\n') = false from rfl)
        refine ⟨rs', skip', ?_⟩
        rw [hone, List.foldl_cons, List.foldl_nil, Builder.take_char hs hc (by simpa using hskip),
          hrest, hkept, ← attachAll_textNodes]
        rfl

/-- **Escaped text** is read into its place. -/
theorem run_escaped {s : Spine} (hs : s.IsOrdinary) (cs : List Char) (n : Nat)
    (rs : List Recovery) {skip : Bool} (hskip : (skip && cs.head? == some '\n') = false)
    (x : List Char) :
    ∃ rs' skip', (between rs s n skip).run (escapeChars cs ++ '<' :: x) =
      (between rs' (s.attachAll (textNodes (cs.filter (· != '\x00')))) n skip').run ('<' :: x) := by
  by_cases hcs : cs = []
  · subst hcs
    exact ⟨rs, skip, rfl⟩
  · obtain ⟨rs', skip', htake⟩ := foldl_take_charTokens hs cs n rs hskip
    refine ⟨rs', skip', ?_⟩
    rw [Builder.run_of_scan hs (by simp) (scan_text hcs (by simp) false), htake]

/-! ### Elements with an escaped value -/

section

variable {tag : String} {before : List Char} {flawed : Bool} {attributes : List (String × String)}
  {text : String}

/-- A mark for a flaw is overlooked. -/
theorem foldl_take_marks (flawed : Bool) (rs : List Recovery) (s : Spine) (n : Nat) :
    ∃ rs', (marks flawed).foldl Builder.take (between rs s n false) = between rs' s n false := by
  cases flawed with
  | false => exact ⟨rs, rfl⟩
  | true => exact ⟨.malformed :: rs, rfl⟩

/-- The outer nodes are the document where no element is open. -/
theorem finish_roots (roots : List Node) : Spine.finish ⟨[], roots⟩ = roots.reverse := by
  rw [Spine.finish, Spine.popWhile]

/-- Nothing is left to do behind the last tag. -/
theorem finish_run (rs : List Recovery) (roots : List Node) (n : Nat) (skip : Bool) :
    ((between rs ⟨[], roots⟩ n skip).run []).spine.finish = roots.reverse := by
  rw [Builder.run, dif_pos rfl, Builder.take_stop]
  exact finish_roots roots

/-- No element is open at the beginning. -/
theorem isOrdinary_nil : Spine.IsOrdinary ⟨[], []⟩ := fun _ hf => absurd hf List.not_mem_nil

/-- **An element with an escaped text in it**, or with none. -/
theorem parse_element (htag : Html.isTagName tag = true) (h : Brackets tag.toLower ⟨[], []⟩)
    (hscan : ∀ rest, scan .markup false ('<' :: (before ++ rest)) =
      (marks flawed ++ [.startTag ⟨tag.toLower, attributes, false⟩], rest)) {cs : List Char}
    (hskip : (Html.dropsLeadingNewline tag.toLower && cs.head? == some '\n') = false)
    (hprepare : prepare text.toList =
      '<' :: (before ++ (escapeChars cs ++ '<' :: '/' :: (tag.toList ++ ['>'])))) :
    parse text =
      [.element tag.toLower (.ofList attributes) (textNodes (cs.filter (· != '\x00')))] := by
  have hf (children : List Node) :
      Frame.IsOrdinary ⟨0, .html, tag.toLower, .ofList attributes, true, false, children⟩ :=
    ⟨rfl, rfl, rfl, h.content⟩
  obtain ⟨rs, hmarks⟩ := foldl_take_marks flawed [] ⟨[], []⟩ 0
  obtain ⟨rs', skip', htext⟩ := run_escaped (isOrdinary_nil.push (hf [])) cs 1 rs hskip
    ('/' :: (tag.toList ++ ['>']))
  have hopened : (marks flawed ++ [Token.startTag ⟨tag.toLower, attributes, false⟩]).foldl Builder.take
      (between [] ⟨[], []⟩ 0 false) = between rs (Spine.push ⟨[], []⟩
        ⟨0, .html, tag.toLower, .ofList attributes, true, false, []⟩) 1
          (Html.dropsLeadingNewline tag.toLower) := by
    rw [List.foldl_append, hmarks]
    exact h.opens rs attributes 0 false
  have hbuild : build text = (between rs' (Spine.attach ⟨[], []⟩ (.element tag.toLower
      (.ofList attributes) (textNodes (cs.filter (· != '\x00')))) false) 1 false).run [] := by
    rw [build, hprepare]
    change (between [] ⟨[], []⟩ 0 false).run _ = _
    rw [Builder.run_of_scan isOrdinary_nil (List.cons_ne_nil _ _) (hscan _), hopened, htext,
      Spine.attachAll_push, Builder.run_of_scan (isOrdinary_nil.push (hf _))
      (List.cons_ne_nil _ _) (scan_endTag htag false []), List.foldl_cons, List.foldl_nil,
      h.closes _ (hf _) rfl, (hf _).finish, reverse_pushChildren_textNodes]
  rw [parse, hbuild, Spine.attach_roots, finish_run]
  rfl

/-- An element without content. -/
theorem parse_void (hrule : startRule tag.toLower = .void)
    (hscan : ∀ rest, scan .markup false ('<' :: (before ++ rest)) =
      (marks flawed ++ [.startTag ⟨tag.toLower, attributes, false⟩], rest))
    (hprepare : prepare text.toList = '<' :: before) :
    parse text = [.element tag.toLower (.ofList attributes) []] := by
  obtain ⟨rs, hmarks⟩ := foldl_take_marks flawed [] ⟨[], []⟩ 0
  have hscan := hscan []
  rw [List.append_nil] at hscan
  have hbuild : build text = (between rs (Spine.attach ⟨[], []⟩
      (.element tag.toLower (.ofList attributes) []) false) 1 false).run [] := by
    rw [build, hprepare]
    change (between [] ⟨[], []⟩ 0 false).run _ = _
    rw [Builder.run_of_scan isOrdinary_nil (List.cons_ne_nil _ _) hscan, List.foldl_append,
      hmarks, List.foldl_cons, List.foldl_nil, Builder.take_startTag_void isOrdinary_nil rfl hrule]
  rw [parse, hbuild, Spine.attach_roots, finish_run]
  rfl

end

/-- **A start tag with an attribute** is found with the value that was escaped, its null characters
replaced. -/
theorem scan_startTag_value {tag name : String} (htag : Html.isTagName tag = true)
    (hname : Html.isAttributeName name = true) (value : List Char) (foreign : Bool)
    (rest : List Char) :
    scan .markup foreign ('<' :: (tag.toList ++ ' ' :: (name.toList ++
        '=' :: '"' :: (escapeChars value ++ '"' :: '>' :: rest)))) =
      (marks (value.contains '\x00') ++
        [.startTag ⟨tag.toLower, [(name.toLower, String.ofList (replaceNulls value))], false⟩],
        rest) := by
  refine scan_startTag_of_tail htag (Or.inl rfl) ?_ foreign
  have hspace := (@dropWhile_attributeChars (name, "") hname
    ('=' :: '"' :: (escapeChars value ++ '"' :: '>' :: rest))).1
  have hvalue := attributeValue?_quoted (String.ofList value) (x := '>' :: rest) (Or.inr rfl)
  rw [String.toList_ofList] at hvalue
  rw [tagTail?_of_name hname rfl (by simpa [attributeChars, valueChars] using hspace)
    (by simp; decide), List.dropWhile_cons_of_neg (show ¬ isTagSpace '=' = true by decide)]
  simp only [hvalue, Option.bind_some, Bool.false_or, List.nil_append]
  exact tagTail?_of_close rfl

/-! ### Documents with an escaped value -/

/-- The markup of a paragraph with a text. -/
def paragraphMarkup (text : String) : String := "<p>" ++ Text.escape text ++ "</p>"

/-- The markup of an element with an attribute. -/
def elementMarkup (tag name value : String) : String :=
  "<" ++ tag ++ " " ++ name ++ "=\"" ++ Text.escape value ++ "\">" ++
    if Html.isVoid tag then "" else "</" ++ tag ++ ">"

/-- A paragraph with a text is parsed into a paragraph with what is read of the text. -/
theorem parse_paragraphMarkup (text : String) :
    parse (paragraphMarkup text) = [.element "p" .empty (textNodes (readText text).toList)] := by
  have htag : Html.isTagName "p" = true := by decide +kernel
  have hlower : "p".toLower = "p" := by decide +kernel
  have hdrops : Html.dropsLeadingNewline "p" = false := by decide +kernel
  have hp : "p".toList = ['p'] := by decide +kernel
  have hopen : "<p>".toList = ['<', 'p', '>'] := by decide +kernel
  have hclose : "</p>".toList = ['<', '/', 'p', '>'] := by decide +kernel
  have hplace := keepsPlace_paragraph isOrdinary_nil (fun _ hf => absurd hf List.not_mem_nil)
  have hbrackets : Brackets "p" ⟨[], []⟩ := by
    cases hplace with
    | void hvoid _ => exact absurd hvoid (by decide +kernel)
    | brackets _ h => exact h
  have hprepare : prepare (paragraphMarkup text).toList =
      '<' :: (['p', '>'] ++ (escapeChars (normalizeNewlines text.toList) ++
        '<' :: '/' :: ("p".toList ++ ['>']))) := by
    have hchars : (paragraphMarkup text).toList =
        '<' :: (['p', '>'] ++ (escapeChars text.toList ++ ['<', '/', 'p', '>'])) := by
      simp [paragraphMarkup, hopen, hclose, Text.escape]
    rw [hchars, hp, prepare_escaped (by decide) (by decide) (by decide)]
    rfl
  have hscan (rest : List Char) : scan .markup false ('<' :: (['p', '>'] ++ rest)) =
      (marks false ++ [.startTag ⟨"p".toLower, [], false⟩], rest) := by
    have htail : tagTail? [] false ('>' :: rest) = some ⟨[], false, false, rest⟩ :=
      tagTail?_of_close rfl
    have h := scan_startTag_of_tail htag (Or.inr rfl) htail false
    rwa [hp] at h
  have hparse := @parse_element "p" ['p', '>'] false [] (paragraphMarkup text) htag
    (by rwa [hlower]) hscan _ (by rw [hlower, hdrops, Bool.false_and]) hprepare
  rw [hparse, hlower, readText, String.toList_ofList]
  rfl

/-- An element with an attribute is parsed into an element with what is read of the value. -/
theorem parse_elementMarkup {tag name : String} (htag : Html.isTagName tag = true)
    (hname : Html.isAttributeName name = true) (hplace : KeepsPlace tag.toLower ⟨[], []⟩)
    (value : String) :
    parse (elementMarkup tag name value) =
      [.element tag.toLower (.ofList [(name.toLower, readValue value)]) []] := by
  have htagCarriage : '\r' ∉ tag.toList := fun hmem =>
    absurd (Html.isTagChar_of_mem htag _ hmem) (by decide)
  have hnameCarriage : '\r' ∉ name.toList := fun hmem =>
    absurd (Html.not_endsAttributeName_of_mem hname _ hmem) (by decide)
  have hbefore : '\r' ∉ '<' :: (tag.toList ++ ' ' :: (name.toList ++ ['=', '"'])) := by
    simp [htagCarriage, hnameCarriage]
  have hscan (rest : List Char) := scan_startTag_value htag hname
    (normalizeNewlines value.toList) false rest
  -- the characters of the tag, with the value as it is read
  let opened : List Char := tag.toList ++ ' ' :: (name.toList ++ '=' :: '"' ::
    (escapeChars (normalizeNewlines value.toList) ++ ['"', '>']))
  have hopened (rest : List Char) : scan .markup false ('<' :: (opened ++ rest)) =
      (marks ((normalizeNewlines value.toList).contains '\x00') ++
        [.startTag ⟨tag.toLower, [(name.toLower, readValue value)], false⟩], rest) := by
    have h := hscan rest
    simpa [opened, readValue] using h
  have hprepare (closing : List Char) (hclosing : '\r' ∉ closing) :
      prepare ('<' :: (tag.toList ++ ' ' :: (name.toList ++ ['=', '"'])) ++
        (escapeChars value.toList ++ '"' :: '>' :: closing)) = '<' :: (opened ++ closing) := by
    have hbehind : '\r' ∉ '"' :: '>' :: closing := by simp [hclosing]
    have h := prepare_escaped hbefore hbehind (by simp) value.toList
    simpa [opened] using h
  have hquote : "=\"".toList = ['=', '"'] := by decide +kernel
  have hend : "\">".toList = ['"', '>'] := by decide +kernel
  cases hplace with
  | void hvoid hrule =>
      rw [Html.isVoid_toLower] at hvoid
      refine parse_void hrule hopened ?_
      have h := hprepare [] List.not_mem_nil
      rw [List.append_nil] at h
      rw [← h]
      simp [elementMarkup, hvoid, Text.escape, hquote, hend]
  | brackets hvoid h =>
      rw [Html.isVoid_toLower] at hvoid
      have hparse := @parse_element tag opened _ _ (elementMarkup tag name value) htag h hopened []
        (by simp) ?_
      · exact hparse
      · have h := hprepare ('<' :: '/' :: (tag.toList ++ ['>'])) (by simp [htagCarriage])
        rw [Text.escapeChars_nil, List.nil_append, ← h]
        simp [elementMarkup, hvoid, Text.escape, hquote, hend]

/-- The text in a document of one element with a text. -/
theorem data?_textNodes (cs : List Char) :
    (Document.ofForest [.element "p" .empty (textNodes cs)]).data? 2 =
      if cs = [] then none else some (String.ofList cs) := by
  rw [textNodes]
  split <;> rfl

/-- The attribute in a document of one element with an attribute. -/
theorem attribute?_ofForest (tag name value : String) :
    (Document.ofForest [.element tag (.ofList [(name.toLower, value)]) []]).attribute? 1 name =
      some value := by
  have hfound : (Document.ofForest
      [.element tag (.ofList [(name.toLower, value)]) []]).attribute? 1 name =
      (OrderedMap.empty.insert name.toLower.toLower value).get? name.toLower := rfl
  rw [hfound, toLower_toLower, OrderedMap.get?_insert, if_pos rfl]

/-- **What becomes of every escaped text and of every escaped value.** A paragraph is read with one
text in it, and an element with its attribute, each without what a parser drops or replaces; so just
the texts and values without carriage returns and null characters survive. Whatever the element is,
its start tag is found with the value. -/
theorem parse_escaped {text : String} (htext : text ≠ "") {tag name : String}
    (htag : Html.isTagName tag = true) (hname : Html.isAttributeName name = true)
    (value : String) :
    (Document.parse (paragraphMarkup text) =
        .ofForest [.element "p" .empty (textNodes (readText text).toList)] ∧
      (Document.parse (paragraphMarkup text) = .ofForest [.element "p" .empty [.text text]] ↔
        Survives text)) ∧
      (∀ rest : List Char, scan .markup false ('<' :: (tag.toList ++
          ' ' :: (name.toList ++ '=' :: '"' :: ((Text.escape value).toList ++
            '"' :: '>' :: rest)))) =
        (marks (value.toList.contains '\x00') ++ [.startTag ⟨tag.toLower,
          [(name.toLower, String.ofList (replaceNulls value.toList))], false⟩], rest)) ∧
      (IsFlow tag.toLower ∨ tag.toLower = "p" →
        Document.parse (elementMarkup tag name value) =
            .ofForest [.element tag.toLower (.ofList [(name.toLower, readValue value)]) []] ∧
          ((Document.parse (elementMarkup tag name value)).attribute? 1 name = some value ↔
            Survives value)) := by
  have hclosed : ∀ f ∈ (⟨[], []⟩ : Spine).frames, f.name ≠ "p" :=
    fun _ hf => absurd hf List.not_mem_nil
  refine ⟨?_, fun rest => ?_, fun hplace => ?_⟩
  · have hread : Document.parse (paragraphMarkup text) =
        .ofForest [.element "p" .empty (textNodes (readText text).toList)] := by
      rw [Document.parse, parse_paragraphMarkup]
    refine ⟨hread, fun h => ?_, fun h => ?_⟩
    · -- the text of the document is the one that was read
      have hdata := congrArg (fun d => d.data? 2) (hread.symm.trans h)
      rw [data?_textNodes] at hdata
      change (if (readText text).toList = [] then none
        else some (String.ofList (readText text).toList)) = some text at hdata
      split at hdata
      · cases hdata
      · rw [String.ofList_toList, Option.some.injEq] at hdata
        exact readText_eq_iff.mp hdata
    · have hne : text.toList ≠ [] := fun hnil => htext (String.toList_eq_nil_iff.mp hnil)
      rw [hread, readText_eq_iff.mpr h, textNodes, if_neg hne, String.ofList_toList]
  · rw [Text.escape, String.toList_ofList]
    exact scan_startTag_value htag hname value.toList false rest
  · have hkeeps : KeepsPlace tag.toLower ⟨[], []⟩ := by
      rcases hplace with h | h
      · exact h.keepsPlace (toLower_toLower tag) isOrdinary_nil hclosed
      · rw [h]
        exact keepsPlace_paragraph isOrdinary_nil hclosed
    have hread : Document.parse (elementMarkup tag name value) =
        .ofForest [.element tag.toLower (.ofList [(name.toLower, readValue value)]) []] := by
      rw [Document.parse, parse_elementMarkup htag hname hkeeps]
    refine ⟨hread, ?_⟩
    rw [hread, attribute?_ofForest, Option.some.injEq]
    exact readValue_eq_iff

/-- Marks of markup survive in a text and in a value. -/
theorem parse_escaped_marks :
    "<\"&'>" ≠ "" ∧ Html.isTagName "p" = true ∧ Html.isAttributeName "Title" = true ∧
      Document.parse (paragraphMarkup "<\"&'>") = .ofForest [.element "p" .empty [.text "<\"&'>"]] ∧
      (Document.parse (elementMarkup "p" "Title" "<\"&'>")).attribute? 1 "Title" =
        some "<\"&'>" := by
  have htext : "<\"&'>" ≠ "" := by decide
  have htag : Html.isTagName "p" = true := by decide +kernel
  have hname : Html.isAttributeName "Title" = true := by decide +kernel
  have hsurvives : Survives "<\"&'>" := by decide +kernel
  obtain ⟨hread, -, hvalue⟩ := parse_escaped htext htag hname "<\"&'>"
  refine ⟨htext, htag, hname, hread.2.mpr hsurvives, ?_⟩
  exact (hvalue (Or.inr (by decide +kernel))).2.mpr hsurvives

/-- A line end in a text may come back as another one. -/
theorem parse_carriage_ne :
    Document.parse (paragraphMarkup "\r") ≠ .ofForest [.element "p" .empty [.text "\r"]] := by
  intro h
  have hread : Document.parse (paragraphMarkup "\r") =
      .ofForest [.element "p" .empty [.text "\n"]] := by
    have hchars : (readText "\r").toList = ['\n'] := by decide +kernel
    rw [Document.parse, parse_paragraphMarkup, hchars]
    rfl
  have hdata := congrArg (fun d => d.data? 2) (hread.symm.trans h)
  exact absurd hdata (by decide +kernel)

end Markup

end TwinRender
