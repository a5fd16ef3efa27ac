import TwinRender.Markup.Reference
import TwinRender.Markup.Token

/-!
# Scanning

`scan` takes the tokens at the front of a text: a run of text up to the next angle bracket, or
one tag or comment, or the raw content of an element with its end tag. It always takes at least
one character (`length_rest_scan_lt`), so repeating it reads the whole text.

## Main definitions

* `normalizeNewlines` — the text with one kind of line end;
* `scan` — the tokens at the front of a text and what is left.
-/

namespace TwinRender.Markup

/-- Line ends become line feeds. -/
def normalizeNewlines : List Char → List Char
  | [] => []
  | '\r' :: '\n' :: cs => '\n' :: normalizeNewlines cs
  | '\r' :: cs => '\n' :: normalizeNewlines cs
  | c :: cs => c :: normalizeNewlines cs

/-- The text as it is scanned: without a byte order mark, and with one kind of line end. -/
def prepare (cs : List Char) : List Char :=
  normalizeNewlines (match cs with
    | '\ufeff' :: rest => rest
    | cs => cs)

/-- White space inside tags. -/
def isTagSpace (c : Char) : Bool :=
  c == ' ' || c == '\n' || c == '\t' || c == '\x0c'

/-- ASCII letters, which start the name of an element. -/
def startsTagName (c : Char) : Bool :=
  c.isAlpha

/-- The characters of the name of an element. -/
def isTagNamePart (c : Char) : Bool :=
  !(isTagSpace c || c == '/' || c == '>')

/-- The characters of the name of an attribute, the first one apart. -/
def isAttributeNamePart (c : Char) : Bool :=
  !(isTagSpace c || c == '/' || c == '>' || c == '=')

/-- Text with the null character replaced. -/
def replaceNulls (cs : List Char) : List Char :=
  cs.map fun c => if c == '\x00' then replacement else c

/-- A name as it is stored: in lowercase, with the null character replaced. -/
def storedName (cs : List Char) : String :=
  String.ofList ((replaceNulls cs).map Char.toLower)

/-! ### Tags -/

/-- What stands behind the name in a tag, up to its closing bracket. -/
structure TagTail where
  /-- The attributes in order, the first of each name. -/
  attributes : List (String × String)
  /-- Whether a slash stands before the closing bracket. -/
  selfClosing : Bool
  /-- Whether something in the tag was not written properly. -/
  flawed : Bool
  /-- The text behind the closing bracket. -/
  rest : List Char
  deriving Repr, Inhabited

/-- An attribute value as it was found: the text, whether something about it is flawed, and what
is left. -/
structure FoundValue where
  /-- The decoded value. -/
  value : String
  /-- Whether it was not written properly. -/
  flawed : Bool
  /-- The text behind it. -/
  rest : List Char
  deriving Repr, Inhabited

/-- The value with the given raw text. -/
def FoundValue.ofRaw (raw rest : List Char) (flawed : Bool) : FoundValue :=
  let pieces := decode true (replaceNulls raw)
  ⟨String.ofList (Piece.chars pieces), flawed || Piece.flawed pieces || raw.contains '\x00', rest⟩

/-- A value between quotes, behind the opening one; nothing when the closing quote is missing. A
closing quote should be followed by white space, a slash or the end of the tag. -/
def quotedValue? (quote : Char) (cs : List Char) : Option FoundValue :=
  match cs.dropWhile (· != quote) with
  | [] => none
  | _ :: rest =>
    some (.ofRaw (cs.takeWhile (· != quote)) rest (rest.head?.any isTagNamePart))

/-- The value behind an equals sign; nothing when the text ends. -/
def attributeValue? (cs : List Char) : Option FoundValue :=
  match cs.dropWhile isTagSpace with
  | [] => none
  | '"' :: rest => quotedValue? '"' rest
  | '\'' :: rest => quotedValue? '\'' rest
  | '>' :: rest => some ⟨"", true, '>' :: rest⟩
  | c :: rest =>
    let isPart := fun c => !(isTagSpace c || c == '>')
    some (.ofRaw (c :: rest.takeWhile isPart) (rest.dropWhile isPart) false)

/-- What stands behind the character at which skipping ends is shorter than the text. -/
theorem length_lt_of_dropWhile_eq_cons {p : Char → Bool} {cs rest : List Char} {c : Char}
    (h : cs.dropWhile p = c :: rest) : rest.length < cs.length := by
  have hle : (cs.dropWhile p).length ≤ cs.length := (List.dropWhile_sublist p).length_le
  rw [h, List.length_cons] at hle
  exact hle

/-- What is left behind a quoted value is shorter than the text it was found in. -/
theorem length_rest_quotedValue {quote : Char} {cs : List Char} {found : FoundValue}
    (h : quotedValue? quote cs = some found) : found.rest.length < cs.length := by
  unfold quotedValue? at h
  split at h
  · simp at h
  · next c rest hd =>
    obtain rfl := Option.some.inj h
    exact length_lt_of_dropWhile_eq_cons hd

/-- What is left behind a value is no longer than the text it was found in. -/
theorem length_rest_attributeValue {cs : List Char} {found : FoundValue}
    (h : attributeValue? cs = some found) : found.rest.length ≤ cs.length := by
  unfold attributeValue? at h
  split at h
  · simp at h
  · next rest hr =>
    have hquoted := length_rest_quotedValue h
    have hbehind := length_lt_of_dropWhile_eq_cons hr
    omega
  · next rest hr =>
    have hquoted := length_rest_quotedValue h
    have hbehind := length_lt_of_dropWhile_eq_cons hr
    omega
  · next rest hr =>
    -- an empty value leaves the closing bracket where it is
    obtain rfl := Option.some.inj h
    rw [← hr]
    exact (List.dropWhile_sublist isTagSpace).length_le
  · next c rest _ _ _ hr =>
    obtain rfl := Option.some.inj h
    have hbehind := length_lt_of_dropWhile_eq_cons hr
    exact Nat.le_trans (List.dropWhile_sublist _).length_le (Nat.le_of_lt hbehind)

/-- What stands behind the name of an attribute and white space is no longer than the text behind the
first letter of the name. -/
theorem length_behindName_le (rest : List Char) :
    ((rest.dropWhile isAttributeNamePart).dropWhile isTagSpace).length ≤ rest.length :=
  ((List.dropWhile_sublist _).trans (List.dropWhile_sublist _)).length_le

/-- Whether the name of an attribute holds a character that should not be there. -/
def nameFlawed (name : List Char) : Bool :=
  name.any (fun c => c == '"' || c == '\'' || c == '<' || c == '\x00') || name.head? == some '='

set_option linter.unusedVariables false in
/-- The attributes of a tag and its end. An attribute that repeats a name is left out. -/
def tagTail? (attributes : List (String × String)) (flawed : Bool) (cs : List Char) :
    Option TagTail :=
  match h : cs.dropWhile isTagSpace with
  | [] => none
  | '>' :: rest => some ⟨attributes, false, flawed, rest⟩
  | '/' :: '>' :: rest => some ⟨attributes, true, flawed, rest⟩
  | '/' :: rest => tagTail? attributes true rest
  | c :: rest =>
    let written := c :: rest.takeWhile isAttributeNamePart
    let name := storedName written
    let known := (attributes.lookup name).isSome
    let flawed := flawed || known || nameFlawed written
    let add := fun value => if known then attributes else attributes ++ [(name, value)]
    match h' : (rest.dropWhile isAttributeNamePart).dropWhile isTagSpace with
    | '=' :: behind =>
      match hv : attributeValue? behind with
      | none => none
      | some found => tagTail? (add found.value) (flawed || found.flawed) found.rest
    | behind => tagTail? (add "") flawed behind
termination_by cs.length
decreasing_by
  · exact length_lt_of_dropWhile_eq_cons h
  · have hvalue := length_rest_attributeValue hv
    have hname := length_behindName_le rest
    have hrest := length_lt_of_dropWhile_eq_cons h
    rw [h', List.length_cons] at hname
    omega
  · have hname := length_behindName_le rest
    have hrest := length_lt_of_dropWhile_eq_cons h
    rw [h'] at hname
    omega

/-- A mark for a flaw, if there is one. -/
def marks (flawed : Bool) : List Token :=
  if flawed then [.flaw] else []

/-- A start tag, from the first letter of its name. A tag without an end is dropped. -/
def startTag (cs : List Char) : List Token × List Char :=
  let written := cs.takeWhile isTagNamePart
  match tagTail? [] (written.contains '\x00') (cs.dropWhile isTagNamePart) with
  | none => ([.flaw], [])
  | some tail =>
    (marks tail.flawed ++ [.startTag ⟨storedName written, tail.attributes, tail.selfClosing⟩],
      tail.rest)

/-- An end tag, from the first letter of its name. Attributes and a slash are flaws. -/
def endTag (cs : List Char) : List Token × List Char :=
  let written := cs.takeWhile isTagNamePart
  match tagTail? [] (written.contains '\x00') (cs.dropWhile isTagNamePart) with
  | none => ([.flaw], [])
  | some tail =>
    (marks (tail.flawed || !tail.attributes.isEmpty || tail.selfClosing) ++
      [.endTag (storedName written)], tail.rest)

/-! ### Comments -/

/-- A comment's text, whether it was not written properly, and what is left behind it. -/
def commentBody : List Char → List Char × Bool × List Char
  | '-' :: '-' :: '>' :: cs => ([], false, cs)
  | '-' :: '-' :: '!' :: '>' :: cs => ([], true, cs)
  | [] | ['-'] | ['-', '-'] | ['-', '-', '!'] => ([], true, [])
  | c :: cs =>
    let (text, flawed, rest) := commentBody cs
    let nested := c == '<' && ['!', '-', '-'].isPrefixOf cs && (cs.drop 3).head? != some '>'
    ((if c == '\x00' then replacement else c) :: text, flawed || nested || c == '\x00', rest)

/-- A comment behind its opening `<!--`. -/
def comment (cs : List Char) : List Token × List Char :=
  match cs with
  | '>' :: rest => ([.flaw, .comment ""], rest)
  | '-' :: '>' :: rest => ([.flaw, .comment ""], rest)
  | cs =>
    let (text, flawed, rest) := commentBody cs
    (marks flawed ++ [.comment (String.ofList text)], rest)

/-- Something else between angle brackets, read as a comment up to the next closing bracket. -/
def bogusComment (cs : List Char) : List Token × List Char :=
  ([.flaw, .comment (String.ofList (replaceNulls (cs.takeWhile (· != '>'))))],
    (cs.dropWhile (· != '>')).drop 1)

/-- Characters as tokens; the null character is a flaw. -/
def charTokens (cs : List Char) : List Token :=
  cs.flatMap fun c => if c == '\x00' then [.flaw, .char c] else [.char c]

/-- A character section behind its opening `<![CDATA[`: its text and what is left behind it. -/
def characterSection : List Char → List Token × List Char
  | ']' :: ']' :: '>' :: cs => ([], cs)
  | [] => ([.flaw], [])
  | c :: cs =>
    let (tokens, rest) := characterSection cs
    (.char c :: tokens, rest)

/-- What stands behind `<!`: a comment, a document type, which is dropped, or in foreign content a
character section. -/
def declaration (foreign : Bool) (cs : List Char) : List Token × List Char :=
  if ['-', '-'].isPrefixOf cs then comment (cs.drop 2)
  else if (cs.take 7).map Char.toLower = ['d', 'o', 'c', 't', 'y', 'p', 'e'] then
    ([.flaw], (cs.dropWhile (· != '>')).drop 1)
  else if foreign && ['[', 'C', 'D', 'A', 'T', 'A', '['].isPrefixOf cs then
    characterSection (cs.drop 7)
  else bogusComment cs

/-- What stands behind an opening angle bracket. -/
def angle (foreign : Bool) (cs : List Char) : List Token × List Char :=
  match cs with
  | '!' :: rest => declaration foreign rest
  | '/' :: rest =>
    match rest with
    | [] => ([.flaw, .char '<', .char '/'], [])
    | '>' :: rest => ([.flaw], rest)
    | c :: rest => if startsTagName c then endTag (c :: rest) else bogusComment (c :: rest)
  | '?' :: _ => bogusComment cs
  | c :: _ => if startsTagName c then startTag cs else ([.flaw, .char '<'], cs)
  | [] => ([.flaw, .char '<'], [])

/-! ### Text -/

/-- Decoded text as tokens. -/
def pieceTokens (pieces : List Piece) : List Token :=
  pieces.flatMap fun
    | .char c => charTokens [c]
    | .flaw => [.flaw]

/-- Tags, comments or text with references. -/
def scanMarkup (foreign : Bool) (cs : List Char) : List Token × List Char :=
  match cs with
  | '<' :: rest => angle foreign rest
  | cs => (pieceTokens (decode false (cs.takeWhile (· != '<'))), cs.dropWhile (· != '<'))

/-- Whether `</`, the name and the end of a name stand at the front of a text behind its opening
angle bracket. -/
def closes (name : List Char) (cs : List Char) : Bool :=
  match cs with
  | '/' :: rest =>
    (rest.take name.length).map Char.toLower == name &&
      ((rest.drop name.length).head?.any fun c => !isTagNamePart c)
  | _ => false

/-- The text before the end tag with a name, and the text from there on. -/
def splitRaw (name : List Char) : List Char → List Char × List Char
  | [] => ([], [])
  | c :: cs =>
    if c == '<' && closes name cs then ([], c :: cs)
    else
      let (content, rest) := splitRaw name cs
      (c :: content, rest)

/-- Script text outside comment brackets, inside them, or inside a script element inside them. -/
inductive ScriptPart where
  /-- Outside comment brackets. -/
  | outside
  /-- Inside comment brackets; an end tag still ends the script. -/
  | inside
  /-- Inside a script element inside comment brackets. -/
  | nested
  deriving DecidableEq, Repr, Inhabited

/-- Whether the letters `script` and the end of a name stand at the front of a text. -/
def namesScript (cs : List Char) : Bool :=
  closes ['s', 'c', 'r', 'i', 'p', 't'] ('/' :: cs)

/-- The part that follows a character, given the text behind it. -/
def ScriptPart.next (part : ScriptPart) (c : Char) (cs : List Char) : ScriptPart :=
  match part with
  | .outside => if c == '<' && ['!', '-', '-'].isPrefixOf cs then .inside else .outside
  | .inside =>
    if c == '-' && ['-', '>'].isPrefixOf cs then .outside
    else if c == '<' && namesScript cs then .nested
    else .inside
  | .nested =>
    if c == '-' && ['-', '>'].isPrefixOf cs then .outside
    else if c == '<' && closes ['s', 'c', 'r', 'i', 'p', 't'] cs then .inside
    else .nested

/-- The text of a script, and the text from its end tag on. -/
def splitScript (part : ScriptPart) : List Char → List Char × List Char
  | [] => ([], [])
  | c :: cs =>
    if part != .nested && c == '<' && closes ['s', 'c', 'r', 'i', 'p', 't'] cs then ([], c :: cs)
    else
      let (content, rest) := splitScript (part.next c cs) cs
      (c :: content, rest)

/-- Tokens for text in which the null character is replaced. -/
def rawTokens (cs : List Char) : List Token :=
  cs.flatMap fun c => if c == '\x00' then [.flaw, .char replacement] else [.char c]

/-- The tokens of the text in front of an end tag, and those of the end tag. -/
def withEndTag (content : List Token) (rest : List Char) : List Token × List Char :=
  match rest with
  | _ :: rest =>
    let (tokens, rest) := angle false rest
    (content ++ tokens, rest)
  | [] => (content, [])

/-- The tokens at the front of a text that is not empty, and what is left behind them. -/
def scan (content : Content) (foreign : Bool) (cs : List Char) : List Token × List Char :=
  match content with
  | .markup => scanMarkup foreign cs
  | .references name =>
    let (text, rest) := splitRaw name.toList cs
    withEndTag (marks (text.contains '\x00') ++ pieceTokens (decode false (replaceNulls text))) rest
  | .raw name =>
    let (text, rest) := splitRaw name.toList cs
    withEndTag (rawTokens text) rest
  | .script =>
    let (text, rest) := splitScript .outside cs
    withEndTag (rawTokens text) rest
  | .plain => (rawTokens cs, [])

/-! ### Progress -/

/-- What is left behind the attributes and the end of a tag is shorter than the text. -/
theorem length_rest_tagTail {attributes : List (String × String)} {flawed : Bool}
    {cs : List Char} {tail : TagTail} (h : tagTail? attributes flawed cs = some tail) :
    tail.rest.length < cs.length := by
  fun_induction tagTail? attributes flawed cs with
  | case1 => simp at h
  | case2 attributes flawed cs rest hd =>
    obtain rfl := Option.some.inj h
    exact length_lt_of_dropWhile_eq_cons hd
  | case3 attributes flawed cs rest hd =>
    obtain rfl := Option.some.inj h
    exact Nat.lt_of_succ_lt (length_lt_of_dropWhile_eq_cons hd)
  | case4 attributes flawed cs rest _ hd ih =>
    exact Nat.lt_trans (ih h) (length_lt_of_dropWhile_eq_cons hd)
  | case5 => simp at h
  | case6 attributes flawed cs c rest _ _ _ hd _ _ _ _ _ behind hb found hv ih =>
    have htail := ih h
    have hvalue := length_rest_attributeValue hv
    have hname := length_behindName_le rest
    have hrest := length_lt_of_dropWhile_eq_cons hd
    rw [hb, List.length_cons] at hname
    omega
  | case7 attributes flawed cs c rest _ _ _ hd _ _ _ _ _ _ ih =>
    have htail := ih h
    have hname := length_behindName_le rest
    have hrest := length_lt_of_dropWhile_eq_cons hd
    omega

/-- What is left behind a start tag is no longer than the text from its name on. -/
theorem length_rest_startTag (cs : List Char) : (startTag cs).2.length ≤ cs.length := by
  unfold startTag
  simp only
  split
  · simp
  · next tail h =>
    have htail := length_rest_tagTail h
    exact Nat.le_trans (Nat.le_of_lt htail) (List.dropWhile_sublist isTagNamePart).length_le

/-- What is left behind an end tag is no longer than the text from its name on. -/
theorem length_rest_endTag (cs : List Char) : (endTag cs).2.length ≤ cs.length := by
  unfold endTag
  simp only
  split
  · simp
  · next tail h =>
    have htail := length_rest_tagTail h
    exact Nat.le_trans (Nat.le_of_lt htail) (List.dropWhile_sublist isTagNamePart).length_le

/-- What is left behind something else between angle brackets is no longer than the text. -/
theorem length_rest_bogusComment (cs : List Char) : (bogusComment cs).2.length ≤ cs.length := by
  have hskip := (List.dropWhile_sublist (· != '>') (l := cs)).length_le
  simp only [bogusComment, List.length_drop]
  omega

/-- What is left behind a comment is no longer than the text from its first character on. -/
theorem length_rest_commentBody (cs : List Char) : (commentBody cs).2.2.length ≤ cs.length := by
  fun_induction commentBody cs <;> simp_all <;> omega

/-- What is left behind a comment is no longer than the text behind its opening. -/
theorem length_rest_comment (cs : List Char) : (comment cs).2.length ≤ cs.length := by
  unfold comment
  split
  · simp
  · simp; omega
  · exact length_rest_commentBody cs

/-- What is left behind a character section is no longer than the text behind its opening. -/
theorem length_rest_characterSection (cs : List Char) :
    (characterSection cs).2.length ≤ cs.length := by
  fun_induction characterSection cs <;> simp_all <;> omega

/-- What is left behind a comment, a document type or a character section is no longer than the text
it was found in. -/
theorem length_rest_declaration (foreign : Bool) (cs : List Char) :
    (declaration foreign cs).2.length ≤ cs.length := by
  unfold declaration
  split
  · exact Nat.le_trans (length_rest_comment _) (by simp)
  split
  · have hskip := (List.dropWhile_sublist (· != '>') (l := cs)).length_le
    simp only [List.length_drop]
    omega
  split
  · exact Nat.le_trans (length_rest_characterSection _) (by simp)
  · exact length_rest_bogusComment cs

/-- What is left behind markup is no longer than the text behind its opening angle bracket. -/
theorem length_rest_angle (foreign : Bool) (cs : List Char) :
    (angle foreign cs).2.length ≤ cs.length := by
  unfold angle
  split
  · exact Nat.le_trans (length_rest_declaration _ _) (by simp)
  · split
    · simp
    · simp; omega
    · split
      · exact Nat.le_trans (length_rest_endTag _) (by simp)
      · exact Nat.le_trans (length_rest_bogusComment _) (by simp)
  · exact length_rest_bogusComment _
  · split
    · exact length_rest_startTag _
    · simp
  · simp

/-- Scanning markup takes at least one character. -/
theorem length_rest_scanMarkup (foreign : Bool) (c : Char) (cs : List Char) :
    (scanMarkup foreign (c :: cs)).2.length < (c :: cs).length := by
  unfold scanMarkup
  split
  · next rest h =>
    obtain ⟨rfl, rfl⟩ := List.cons.inj h
    exact Nat.lt_succ_of_le (length_rest_angle foreign cs)
  · next h =>
    have hc : (c != '<') = true := by
      simpa using fun e : c = '<' => h cs (by rw [e])
    simp only [List.dropWhile_cons, hc, if_true, List.length_cons]
    exact Nat.lt_succ_of_le (List.dropWhile_sublist _).length_le

/-- The text from an end tag on is no longer than all of it. -/
theorem length_rest_splitRaw (name cs : List Char) :
    (splitRaw name cs).2.length ≤ cs.length := by
  fun_induction splitRaw name cs <;> simp_all
  omega

/-- The text from the end tag of a script on is no longer than all of it. -/
theorem length_rest_splitScript (part : ScriptPart) (cs : List Char) :
    (splitScript part cs).2.length ≤ cs.length := by
  fun_induction splitScript part cs <;> simp_all
  omega

/-- Less is left behind an end tag than there was before it; without one, nothing is left. -/
theorem length_rest_withEndTag (content : List Token) {rest cs : List Char}
    (h : rest.length ≤ cs.length) (hcs : cs ≠ []) :
    (withEndTag content rest).2.length < cs.length := by
  unfold withEndTag
  split
  · next c rest =>
    exact Nat.lt_of_lt_of_le (Nat.lt_succ_of_le (length_rest_angle false rest)) h
  · exact List.length_pos_iff.2 hcs

/-- Scanning takes at least one character. -/
theorem length_rest_scan_lt (content : Content) (foreign : Bool) {cs : List Char}
    (h : cs ≠ []) : (scan content foreign cs).2.length < cs.length := by
  cases content with
  | markup =>
    obtain ⟨c, cs, rfl⟩ := List.exists_cons_of_ne_nil h
    exact length_rest_scanMarkup foreign c cs
  | references name => exact length_rest_withEndTag _ (length_rest_splitRaw name.toList cs) h
  | raw name => exact length_rest_withEndTag _ (length_rest_splitRaw name.toList cs) h
  | script => exact length_rest_withEndTag _ (length_rest_splitScript .outside cs) h
  | plain => exact List.length_pos_iff.2 h

end TwinRender.Markup
