import TwinRender.Markup.Token.Scan
import TwinRender.Proofs.Markup.Reading

/-!
# Scanning what was written

The scanner finds in written markup the parts that it was written from: for a start tag its name
and attributes with their values, for an end tag its name, and for escaped text the characters of
the text. Of what is written only the null character is marked as flawed and does not come back as
it was; it is replaced in a value. What else a parser drops or replaces is named together with it.

## Main definitions

* `Markup.IsClean`: text without the characters that a parser drops or replaces.

## Main results

* `Markup.decode_escapeChars`: **decoding undoes escaping**.
* `Markup.tagTail?_attributes`: the attributes of a written start tag.
* `Markup.scan_text`, `Markup.scan_startTag`, `Markup.scan_endTag`: what the scanner finds at the
  front of written markup.
-/

namespace TwinRender.Markup

open Text (escapeChar escapeChars)

/-- Text without the characters that a parser drops or replaces. -/
structure IsClean (s : String) : Prop where
  /-- There is no carriage return. -/
  carriage : '\r' ∉ s.toList
  /-- There is no null character. -/
  null : '\x00' ∉ s.toList
  /-- There is no byte order mark. -/
  mark : '\ufeff' ∉ s.toList

instance (s : String) : Decidable (IsClean s) :=
  decidable_of_iff ('\r' ∉ s.toList ∧ '\x00' ∉ s.toList ∧ '\ufeff' ∉ s.toList)
    ⟨fun h => ⟨h.1, h.2.1, h.2.2⟩, fun h => ⟨h.carriage, h.null, h.mark⟩⟩

/-- Text without carriage returns has one kind of line end. -/
theorem normalizeNewlines_eq_self {cs : List Char} (h : '\r' ∉ cs) :
    normalizeNewlines cs = cs := by
  fun_induction normalizeNewlines cs with
  | case1 => rfl
  | case2 cs ih => simp at h
  | case3 cs _ ih => simp at h
  | case4 c cs _ _ ih => rw [ih fun hmem => h (List.mem_cons_of_mem _ hmem)]

/-- Text without carriage returns and a byte order mark in front is scanned as it is. -/
theorem prepare_eq_self {cs : List Char} (h : '\r' ∉ cs) (hmark : cs.head? ≠ some '\ufeff') :
    prepare cs = cs := by
  rw [prepare]
  · exact normalizeNewlines_eq_self h
  · rintro rest rfl
    exact hmark rfl

/-! ### References -/

/-- A name in front of a semicolon stands for its characters. -/
theorem Reading.ofName_of_closed (inAttribute : Bool) {name : List Char} {chars : String}
    (hname : ∀ c ∈ name, isNamePart c = true)
    (h : characterNames.lookup (String.ofList name) = some chars) (rest : List Char) :
    ofName inAttribute (name ++ ';' :: rest) = ⟨chars.toList, false, name.length + 1⟩ := by
  obtain ⟨htake, -⟩ := takeWhile_append_of_stop hname (x := ';' :: rest) (by simp; decide)
  simp [ofName, htake, h]

/-- The number that is written for an apostrophe stands for it. -/
theorem Reading.ofNumber_apostrophe (rest : List Char) :
    ofNumber ('x' :: '2' :: '7' :: ';' :: rest) = ⟨['\''], false, 5⟩ := by
  have htwo : digitIn? 16 '2' = some 2 := by decide
  have hseven : digitIn? 16 '7' = some 7 := by decide
  have hend : digitIn? 16 ';' = none := by decide
  have hchar : numberedChar 39 = ('\'', false) := by decide
  simp [ofNumber, htwo, hseven, hend, hchar]

/-- A reference that is not flawed stands for its characters. -/
theorem decode_reference (inAttribute : Bool) (reference chars : List Char) {cs : List Char}
    (h : Reading.ofReference inAttribute (reference ++ cs) = ⟨chars, false, reference.length⟩) :
    decode inAttribute ('&' :: (reference ++ cs)) = chars.map .char ++ decode inAttribute cs := by
  rw [decode, if_pos rfl]
  simp [h]

/-- What is written for a character is read as the character. -/
theorem decode_escapeChar (inAttribute : Bool) (c : Char) (cs : List Char) :
    decode inAttribute (escapeChar c ++ cs) = .char c :: decode inAttribute cs := by
  have hname (name : List Char) (d : Char) (hparts : name.all isNamePart = true)
      (h : characterNames.lookup (String.ofList name) = some (String.singleton d)) :
      decode inAttribute ('&' :: (name ++ [';'] ++ cs)) = .char d :: decode inAttribute cs := by
    refine decode_reference inAttribute (name ++ [';']) [d] ?_
    rw [List.all_eq_true] at hparts
    have hclosed := Reading.ofName_of_closed inAttribute hparts h cs
    rw [String.toList_singleton] at hclosed
    rw [List.append_assoc, List.singleton_append, List.length_append, List.length_singleton,
      ← hclosed, Reading.ofReference]
    rintro rest heq
    cases name with
    | nil => cases heq
    | cons e name =>
        rw [(List.cons.inj heq).1] at hparts
        exact absurd (hparts '#' (List.mem_cons_self ..)) (by decide)
  rw [escapeChar]
  split
  · next hc => rw [hc]; exact hname ['a', 'm', 'p'] '&' (by decide) (by decide +kernel)
  split
  · next hc => rw [hc]; exact hname ['l', 't'] '<' (by decide) (by decide +kernel)
  split
  · next hc => rw [hc]; exact hname ['g', 't'] '>' (by decide) (by decide +kernel)
  split
  · next hc =>
    rw [hc]
    exact hname ['q', 'u', 'o', 't'] '"' (by decide) (by decide +kernel)
  split
  · next hc =>
    rw [hc]
    exact decode_reference inAttribute ['#', 'x', '2', '7', ';'] ['\'']
      (Reading.ofNumber_apostrophe cs)
  · next hamp _ _ _ _ => exact decode_cons_of_ne inAttribute hamp cs

/-- **Decoding undoes escaping.** -/
theorem decode_escapeChars (inAttribute : Bool) (cs : List Char) :
    decode inAttribute (escapeChars cs) = cs.map .char := by
  induction cs with
  | nil => rw [Text.escapeChars_nil, decode, List.map_nil]
  | cons c cs ih =>
      rw [Text.escapeChars_cons, decode_escapeChar, ih, List.map_cons]

/-- Characters are the characters of their pieces. -/
theorem Piece.chars_map_char (cs : List Char) : Piece.chars (cs.map .char) = cs := by
  rw [Piece.chars, List.filterMap_map]
  exact List.filterMap_some

/-- Characters are not flawed. -/
theorem Piece.flawed_map_char (cs : List Char) : Piece.flawed (cs.map .char) = false := by
  rw [Piece.flawed, List.any_map, List.any_eq_false]
  exact fun _ _ h => by cases h

/-- Escaping brings in no null character, nor any other that is neither written for a mark nor
stands in the text. -/
theorem mem_of_mem_escapeChars {c : Char} {cs : List Char} (h : c ∈ escapeChars cs)
    (hc : c ∉ ['&', 'a', 'm', 'p', 'l', 't', 'g', 'q', 'u', 'o', '#', 'x', '2', '7', ';']) :
    c ∈ cs := by
  obtain ⟨d, hd, hcd⟩ := List.mem_flatMap.mp h
  rw [escapeChar] at hcd
  have hreference {reference : List Char} (hcd : c ∈ reference)
      (hall : reference ⊆
        ['&', 'a', 'm', 'p', 'l', 't', 'g', 'q', 'u', 'o', '#', 'x', '2', '7', ';']) : c ∈ cs :=
    absurd (hall hcd) hc
  split at hcd
  · exact hreference hcd (by decide)
  split at hcd
  · exact hreference hcd (by decide)
  split at hcd
  · exact hreference hcd (by decide)
  split at hcd
  · exact hreference hcd (by decide)
  split at hcd
  · exact hreference hcd (by decide)
  · rwa [List.mem_singleton.mp hcd]

/-! ### Names -/

/-- A text without the null character is stored as it is. -/
theorem replaceNulls_eq_self {cs : List Char} (h : '\x00' ∉ cs) : replaceNulls cs = cs := by
  rw [replaceNulls]
  conv_rhs => rw [← List.map_id cs]
  refine List.map_congr_left fun c hc => ?_
  rw [if_neg, id_eq]
  rw [beq_iff_eq]
  rintro rfl
  exact h hc

/-- A name is stored in lower case. -/
theorem storedName_toList {name : String} (h : '\x00' ∉ name.toList) :
    storedName name.toList = name.toLower := by
  rw [storedName, replaceNulls_eq_self h, ← String.toList_inj, String.toList_ofList,
    String.toLower, String.toList_map]

/-- A character in a tag does not end it. -/
theorem isTagNamePart_of_isTagChar {c : Char} (h : (Html.isAlphanumeric c || c == '-') = true) :
    isTagNamePart c = true := by
  by_contra hnot
  simp only [isTagNamePart, isTagSpace, Bool.not_eq_true', Bool.not_eq_false, Bool.or_eq_true,
    beq_iff_eq, or_assoc] at hnot
  rcases hnot with rfl | rfl | rfl | rfl | rfl | rfl <;> exact absurd h (by decide)

/-- A character that does not end the name of an attribute is part of it. -/
theorem isAttributeNamePart_of_not_ends {c : Char} (h : Html.endsAttributeName c = false) :
    isAttributeNamePart c = true := by
  by_contra hnot
  simp only [isAttributeNamePart, isTagSpace, Bool.not_eq_true', Bool.not_eq_false,
    Bool.or_eq_true, beq_iff_eq, or_assoc] at hnot
  rcases hnot with rfl | rfl | rfl | rfl | rfl | rfl | rfl <;> exact absurd h (by decide)

/-- No null character stands in a tag. -/
theorem null_not_mem_of_isTagName {tag : String} (h : Html.isTagName tag = true) :
    '\x00' ∉ tag.toList :=
  fun hmem => absurd (Html.isTagChar_of_mem h _ hmem) (by decide)

/-- The names of attributes are not flawed. -/
theorem nameFlawed_eq_false {name : List Char}
    (h : ∀ c ∈ name, Html.endsAttributeName c = false) : nameFlawed name = false := by
  rw [nameFlawed, Bool.or_eq_false_iff]
  constructor
  · rw [List.any_eq_false]
    intro c hc hmark
    have hends := h c hc
    simp only [Bool.or_eq_true, beq_iff_eq, or_assoc] at hmark
    rcases hmark with rfl | rfl | rfl | rfl <;> exact absurd hends (by decide)
  · rw [beq_eq_false_iff_ne]
    intro heq
    exact absurd (h '=' (List.mem_of_mem_head? heq)) (by decide)

/-! ### Attributes -/

/-- Behind the attributes of a start tag its end is found. -/
theorem tagTail?_of_close {attributes : List (String × String)} {flawed : Bool}
    {cs rest : List Char} (h : cs.dropWhile isTagSpace = '>' :: rest) :
    tagTail? attributes flawed cs = some ⟨attributes, false, flawed, rest⟩ := by
  rw [tagTail?]
  split <;> simp_all

/-- An attribute with a new name is found with its value, or bare. -/
theorem tagTail?_of_name {attributes : List (String × String)} {flawed : Bool}
    {cs x : List Char} {name : String} (hname : Html.isAttributeName name = true)
    (hnew : attributes.lookup name.toLower = none)
    (hcs : cs.dropWhile isTagSpace = name.toList ++ x)
    (hx : ∀ c ∈ x.head?, isAttributeNamePart c = false) :
    tagTail? attributes flawed cs =
      match x.dropWhile isTagSpace with
      | '=' :: behind => (attributeValue? behind).bind fun found =>
          tagTail? (attributes ++ [(name.toLower, found.value)]) (flawed || found.flawed)
            found.rest
      | behind => tagTail? (attributes ++ [(name.toLower, "")]) flawed behind := by
  have hchars := Html.not_endsAttributeName_of_mem hname
  have hnull : '\x00' ∉ name.toList := fun h => absurd (hchars _ h) (by decide)
  have hstored := storedName_toList hnull
  have hflawed := nameFlawed_eq_false hchars
  cases hlist : name.toList with
  | nil => simp [Html.isAttributeName, String.toList_eq_nil_iff.mp hlist] at hname
  | cons c rest =>
      rw [hlist] at hchars hstored hflawed hcs
      rw [List.forall_mem_cons] at hchars
      obtain ⟨htake, hdrop⟩ := takeWhile_append_of_stop
        (fun d hd => isAttributeNamePart_of_not_ends (hchars.2 d hd)) hx
      have hfirst (d : Char) (hd : Html.endsAttributeName d = true) (ds : List Char) :
          cs.dropWhile isTagSpace ≠ d :: ds := by
        rw [hcs, List.cons_append]
        intro heq
        rw [(List.cons.inj heq).1, hd] at hchars
        cases hchars.1
      rw [tagTail?]
      split
      · next heq => rw [hcs] at heq; cases heq
      · next heq => exact absurd heq (hfirst '>' (by decide) _)
      · next heq => exact absurd heq (hfirst '/' (by decide) _)
      · next heq => exact absurd heq (hfirst '/' (by decide) _)
      · next d ds _ _ _ heq =>
        rw [hcs, List.cons_append, List.cons.injEq] at heq
        obtain ⟨rfl, rfl⟩ := heq
        simp only [htake, hstored, hnew, hflawed]
        split
        · next behind heq =>
          rw [hdrop] at heq
          simp only [heq]
          split
          · next hfound => rw [hfound]; rfl
          · next found hfound =>
            rw [hfound, Option.isSome_none, if_neg Bool.false_ne_true, Bool.or_false, Bool.or_false]
            rfl
        · next hno =>
          rw [hdrop] at hno ⊢
          simp only [Bool.or_false, Option.isSome_none, if_neg Bool.false_ne_true]

/-- Escaping and the replacement of null characters do not disturb each other. -/
theorem replaceNulls_escapeChars (cs : List Char) :
    replaceNulls (escapeChars cs) = escapeChars (replaceNulls cs) := by
  have happend (a b : List Char) : replaceNulls (a ++ b) = replaceNulls a ++ replaceNulls b :=
    List.map_append
  induction cs with
  | nil => rfl
  | cons c cs ih =>
      have hcons : replaceNulls (c :: cs) = replaceNulls [c] ++ replaceNulls cs := rfl
      rw [Text.escapeChars_cons, happend, ih, hcons, Text.escapeChars_append]
      congr 1
      by_cases hc : c = '\x00'
      · subst hc
        decide
      · have hone : '\x00' ∉ escapeChars [c] := fun h =>
          hc (List.mem_singleton.mp (mem_of_mem_escapeChars h (by decide))).symm
        rw [Text.escapeChars_cons, Text.escapeChars_nil, List.append_nil] at hone
        rw [replaceNulls_eq_self hone, replaceNulls_eq_self (by simpa using Ne.symm hc),
          Text.escapeChars_cons, Text.escapeChars_nil, List.append_nil]

/-- A value between quotes is found as it was before it was escaped, with its null characters
replaced. -/
theorem attributeValue?_quoted (value : String) {x : List Char} (hx : EndsAttribute x) :
    attributeValue? ('"' :: (escapeChars value.toList ++ '"' :: x)) =
      some ⟨String.ofList (replaceNulls value.toList), value.toList.contains '\x00', x⟩ := by
  have hquote : ∀ c ∈ escapeChars value.toList, (c != '"') = true :=
    fun c hc => bne_iff_ne.mpr (Text.not_mark_of_mem_escapeChars hc).2.2
  obtain ⟨htake, hdrop⟩ := takeWhile_append_of_stop hquote (x := '"' :: x) (by simp)
  have hnull : (escapeChars value.toList).contains '\x00' = value.toList.contains '\x00' := by
    rw [Bool.eq_iff_iff, List.contains_iff_mem, List.contains_iff_mem]
    exact ⟨fun h => mem_of_mem_escapeChars h (by decide),
      fun h => List.mem_flatMap.mpr ⟨_, h, by decide⟩⟩
  have hbehind : x.head?.any isTagNamePart = false := by
    rcases hx with hx | hx <;> rw [hx] <;> decide
  have hspace : isTagSpace '"' = false := by decide
  simp only [attributeValue?, List.dropWhile_cons, hspace, Bool.false_eq_true, if_false,
    quotedValue?, hdrop, htake, hbehind, FoundValue.ofRaw, replaceNulls_escapeChars,
    decode_escapeChars, Piece.chars_map_char, Piece.flawed_map_char, hnull, Bool.false_or]

/-- Behind the space before an attribute its name begins. -/
theorem dropWhile_attributeChars {a : String × String} (h : Html.isAttributeName a.1 = true)
    (x : List Char) :
    (attributeChars a ++ x).dropWhile isTagSpace = a.1.toList ++ (valueChars a.2 ++ x) ∧
      (a.1.toList ++ (valueChars a.2 ++ x)).head? ≠ some '=' := by
  have hchars := Html.not_endsAttributeName_of_mem h
  rw [attributeChars, List.cons_append, List.append_assoc,
    List.dropWhile_cons_of_pos (show isTagSpace ' ' = true by decide)]
  cases hlist : a.1.toList with
  | nil => simp [Html.isAttributeName, String.toList_eq_nil_iff.mp hlist] at h
  | cons c cs =>
      have hends := hchars c (hlist ▸ List.mem_cons_self ..)
      have hpart := isAttributeNamePart_of_not_ends hends
      simp only [isAttributeNamePart, Bool.not_eq_true', Bool.or_eq_false_iff,
        beq_eq_false_iff_ne] at hpart
      rw [List.cons_append, List.dropWhile_cons_of_neg (by simp [hpart.1.1.1]), List.head?_cons]
      exact ⟨rfl, fun heq => hpart.2 (Option.some.inj heq)⟩

/-- No equals sign stands behind the space before attributes. -/
theorem head?_dropWhile_attributes {attributes : List (String × String)}
    (h : ∀ a ∈ attributes, Html.isAttributeName a.1 = true) (rest : List Char) :
    ((attributes.flatMap attributeChars ++ '>' :: rest).dropWhile isTagSpace).head? ≠
      some '=' := by
  cases attributes with
  | nil => simp [isTagSpace]
  | cons a as =>
      obtain ⟨hdrop, hhead⟩ := dropWhile_attributeChars (h a (List.mem_cons_self ..))
        (as.flatMap attributeChars ++ '>' :: rest)
      rw [List.flatMap_cons, List.append_assoc, hdrop]
      exact hhead

/-- **The attributes of a written start tag** are found as they are, and none of them is flawed. -/
theorem tagTail?_attributes {attributes : List (String × String)}
    (hnames : ∀ a ∈ attributes, Html.isAttributeName a.1 = true ∧ a.1.toLower = a.1)
    (hvalues : ∀ a ∈ attributes, '\x00' ∉ a.2.toList) (before : List (String × String))
    (hnodup : ((before ++ attributes).map Prod.fst).Nodup) {cs rest : List Char}
    (hcs : cs.dropWhile isTagSpace =
      (attributes.flatMap attributeChars ++ '>' :: rest).dropWhile isTagSpace) :
    tagTail? before false cs = some ⟨before ++ attributes, false, false, rest⟩ := by
  induction attributes generalizing before cs with
  | nil =>
      rw [List.append_nil]
      exact tagTail?_of_close hcs
  | cons a as ih =>
      rw [List.forall_mem_cons] at hnames hvalues
      have hnew : before.lookup a.1.toLower = none := by
        rw [hnames.1.2, List.lookup_eq_none_iff]
        intro b hb
        rw [List.map_append, List.nodup_append] at hnodup
        rw [bne_iff_ne]
        exact Ne.symm (hnodup.2.2 b.1 (List.mem_map_of_mem hb) a.1 (List.mem_cons_self ..))
      have hsplit : before ++ a :: as = before ++ [a] ++ as := by simp
      rw [hsplit] at hnodup ⊢
      have hends := endsAttribute_attributes as rest
      rw [List.flatMap_cons, List.append_assoc,
        (dropWhile_attributeChars hnames.1.1 _).1] at hcs
      by_cases hbare : a.2 = ""
      · -- a bare attribute ends at the next one, or at the end of the tag
        have hvalue : valueChars a.2 = [] := by rw [hbare]; rfl
        rw [hvalue, List.nil_append] at hcs
        rw [tagTail?_of_name hnames.1.1 hnew hcs (by
          rcases hends with h | h <;> rw [h] <;> simp <;> decide), hnames.1.2]
        split
        · next behind heq =>
          refine absurd ?_ (head?_dropWhile_attributes (fun b hb => (hnames.2 b hb).1) rest)
          rw [heq, List.head?_cons]
        · rw [← hbare]
          exact ih hnames.2 hvalues.2 _ hnodup (List.dropWhile_idempotent _ _)
      · have hvalue : valueChars a.2 = '=' :: '"' :: (escapeChars a.2.toList ++ ['"']) := by
          rw [valueChars, if_neg (by rwa [String.isEmpty_iff])]
        rw [hvalue] at hcs
        simp only [List.cons_append, List.append_assoc, List.nil_append] at hcs
        have hclean : a.2.toList.contains '\x00' = false := by simpa using hvalues.1
        rw [tagTail?_of_name hnames.1.1 hnew hcs (by simp; decide),
          List.dropWhile_cons_of_neg (show ¬ isTagSpace '=' = true by decide), hnames.1.2]
        simp only [attributeValue?_quoted a.2 hends, Option.bind_some, hclean,
          replaceNulls_eq_self hvalues.1, String.ofList_toList, Bool.or_false]
        exact ih hnames.2 hvalues.2 _ hnodup rfl

/-! ### Written markup -/

/-- Characters without the null character are not flawed. -/
theorem charTokens_eq_map {cs : List Char} (hnull : '\x00' ∉ cs) :
    charTokens cs = cs.map .char := by
  rw [charTokens, List.map_eq_flatMap]
  refine List.flatMap_congr fun c hc => ?_
  rw [if_neg]
  rw [beq_iff_eq]
  rintro rfl
  exact hnull hc

/-- **Escaped text is found as it was**, up to the next tag. -/
theorem scan_text {cs rest : List Char} (hcs : cs ≠ [])
    (hrest : ∀ c ∈ rest.head?, (c != '<') = false) (foreign : Bool) :
    scan .markup foreign (escapeChars cs ++ rest) = (charTokens cs, rest) := by
  have hchars : ∀ c ∈ escapeChars cs, (c != '<') = true :=
    fun c hc => bne_iff_ne.mpr (Text.not_mark_of_mem_escapeChars hc).1
  obtain ⟨htake, hdrop⟩ := takeWhile_append_of_stop hchars hrest
  have htokens : pieceTokens (cs.map .char) = charTokens cs := by
    rw [pieceTokens, List.flatMap_map, charTokens]
    refine List.flatMap_congr fun c _ => ?_
    simp only [charTokens, List.flatMap_singleton]
  rw [scan, scanMarkup]
  · rw [htake, hdrop, decode_escapeChars, htokens]
  · intro x heq
    cases hlist : escapeChars cs with
    | nil => exact hcs (Text.escapeChars_eq_nil_iff.mp hlist)
    | cons c ds =>
        rw [hlist, List.cons_append] at heq
        exact (Text.not_mark_of_mem_escapeChars (hlist ▸ List.mem_cons_self ..)).1
          (List.cons.inj heq).1

/-- A letter behind an angle bracket begins the name of an element. -/
theorem exists_startsTagName {tag : String} (h : Html.isTagName tag = true) :
    ∃ c cs, tag.toList = c :: cs ∧ startsTagName c = true := by
  rw [Html.isTagName] at h
  cases hlist : tag.toList with
  | nil => simp [hlist] at h
  | cons c cs =>
      rw [hlist, Bool.and_eq_true] at h
      exact ⟨c, cs, rfl, h.1⟩

/-- A letter behind an angle bracket begins a start tag. -/
theorem angle_startTag {c : Char} (hc : startsTagName c = true) (foreign : Bool)
    (cs : List Char) : angle foreign (c :: cs) = startTag (c :: cs) := by
  rw [angle, if_pos hc]
  all_goals
    rintro rfl
    exact absurd hc (by decide)

/-- A letter behind an angle bracket and a slash begins an end tag. -/
theorem angle_endTag {c : Char} (hc : startsTagName c = true) (foreign : Bool)
    (cs : List Char) : angle foreign ('/' :: c :: cs) = endTag (c :: cs) := by
  rw [angle, if_pos hc]
  rintro rfl
  exact absurd hc (by decide)

/-- The name of an element ends where it is written to end. -/
theorem takeWhile_tag {tag : String} (h : Html.isTagName tag = true) {x : List Char}
    (hx : EndsAttribute x) :
    (tag.toList ++ x).takeWhile isTagNamePart = tag.toList ∧
      (tag.toList ++ x).dropWhile isTagNamePart = x := by
  refine takeWhile_append_of_stop
    (fun c hc => isTagNamePart_of_isTagChar (Html.isTagChar_of_mem h c hc)) ?_
  rcases hx with hx | hx <;> rw [hx] <;> simp <;> decide

/-- A start tag is found with what stands behind its name. -/
theorem scan_startTag_of_tail {tag : String} (htag : Html.isTagName tag = true) {x rest : List Char}
    (hx : EndsAttribute x) {attributes : List (String × String)} {flawed : Bool}
    (htail : tagTail? [] false x = some ⟨attributes, false, flawed, rest⟩) (foreign : Bool) :
    scan .markup foreign ('<' :: (tag.toList ++ x)) =
      (marks flawed ++ [.startTag ⟨tag.toLower, attributes, false⟩], rest) := by
  obtain ⟨htake, hdrop⟩ := takeWhile_tag htag hx
  have hnull := null_not_mem_of_isTagName htag
  have hstart : startTag (tag.toList ++ x) =
      (marks flawed ++ [.startTag ⟨tag.toLower, attributes, false⟩], rest) := by
    rw [startTag, htake, hdrop, storedName_toList hnull]
    simp [hnull, htail]
  obtain ⟨c, cs, hlist, hc⟩ := exists_startsTagName htag
  rw [hlist, List.cons_append] at hstart ⊢
  rw [scan, scanMarkup, angle_startTag hc, hstart]

/-- **A written start tag is found** with its attributes. -/
theorem scan_startTag {tag : String} {attributes : OrderedMap String}
    (htag : Html.isTagName tag = true) (hnames : VNode.HasLowercaseNames tag attributes)
    (hvalid : ∀ name ∈ attributes.keys, Html.isAttributeName name = true)
    (hvalues : ∀ a ∈ attributes.toList, '\x00' ∉ a.2.toList) (foreign : Bool)
    (rest : List Char) :
    scan .markup foreign
        ('<' :: (tag.toList ++ (attributes.toList.flatMap attributeChars ++ '>' :: rest))) =
      ([.startTag ⟨tag, attributes.toList, false⟩], rest) := by
  have htail : tagTail? [] false (attributes.toList.flatMap attributeChars ++ '>' :: rest) =
      some ⟨attributes.toList, false, false, rest⟩ :=
    tagTail?_attributes (fun a ha => ⟨hvalid a.1 (List.mem_map_of_mem ha),
      hnames.attributes a.1 (List.mem_map_of_mem ha)⟩) hvalues [] attributes.nodup rfl
  rw [scan_startTag_of_tail htag (endsAttribute_attributes _ rest) htail, hnames.tag]
  rfl

/-- **A written end tag is found.** -/
theorem scan_endTag {tag : String} (htag : Html.isTagName tag = true) (foreign : Bool)
    (rest : List Char) :
    scan .markup foreign ('<' :: '/' :: (tag.toList ++ '>' :: rest)) =
      ([.endTag tag.toLower], rest) := by
  obtain ⟨htake, hdrop⟩ := takeWhile_tag htag (x := '>' :: rest) (Or.inr rfl)
  have hnull := null_not_mem_of_isTagName htag
  have htail : tagTail? [] false ('>' :: rest) = some ⟨[], false, false, rest⟩ :=
    tagTail?_of_close rfl
  have hend : endTag (tag.toList ++ '>' :: rest) = ([.endTag tag.toLower], rest) := by
    rw [endTag, htake, hdrop, storedName_toList hnull]
    simp [hnull, htail, marks]
  obtain ⟨c, cs, hlist, hc⟩ := exists_startsTagName htag
  rw [hlist, List.cons_append] at hend ⊢
  rw [scan, scanMarkup, angle_endTag hc, hend]

end TwinRender.Markup
