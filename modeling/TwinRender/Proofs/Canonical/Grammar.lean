import TwinRender.Canonical.Attribute
import TwinRender.Proofs.Canonical.Style

/-!
# Spellings of a style

The same declarations can be spelled in many ways: with any space around their parts, and with
empty declarations between the separators. Reading does not see the difference. A clause says what
a declaration may be made of, without regard to how it is read; a spelling of some clauses adds all
that authors are free to add.

## Main definitions

* `Style.Clause`: a declaration of the grammar.
* `Style.Spelling`: the ways to spell a list of clauses.

## Main results

* `Style.collapse_eq_self`: a value that has single spaces is not changed.
* `Style.Clause.readDeclaration_trim_text`: a clause is read, whatever the space around its parts.
* `Style.parse_spelling`: **every spelling is read as its clauses**, and compares equal to every
  other spelling of them.
-/

namespace TwinRender.Style

open Text (isSpace trim trimEnd IsTrimmed)
open Nesting (outside)

/-! ### Values with single spaces -/

/-- Outside of quotes, space stands as single spaces between other characters. -/
def isSingleSpaced (n : Nesting) : List Char → Bool
  | [] => true
  | c :: cs =>
    (n.quote.isSome || !isSpace c || (c == ' ' && !cs.head?.any isSpace)) &&
      isSingleSpaced (n.step c) cs

/-- The quotes in which a text stands behind a character. -/
theorem quote_step (n : Nesting) (c : Char) :
    (n.step c).quote =
      match n.quote with
      | some q => if c = q then none else some q
      | none => if c = '"' ∨ c = '\'' then some c else none := by
  obtain ⟨quote, depth⟩ := n
  cases quote with
  | some q =>
      simp only [Nesting.step]
      split <;> rfl
  | none =>
      simp only [Nesting.step]
      split
      · rfl
      · split
        · rfl
        · split <;> rfl

/-- Nothing is changed in a text with single spaces that does not end with space. -/
theorem collapseFrom_eq_self {n : Nesting} {cs : List Char} (h : isSingleSpaced n cs = true)
    (hlast : ∀ c ∈ cs.getLast?, isSpace c = false) : collapseFrom n.quote false cs = cs := by
  induction cs generalizing n with
  | nil => rw [collapseFrom]
  | cons c rest ih =>
      rw [isSingleSpaced, Bool.and_eq_true] at h
      obtain ⟨hc, hrest⟩ := h
      have hbehind : collapseFrom (n.step c).quote false rest = rest := by
        refine ih hrest fun d hd => hlast d ?_
        cases rest with
        | nil => cases hd
        | cons e rest => rwa [List.getLast?_cons_cons]
      rw [quote_step] at hbehind
      cases hquote : n.quote with
      | some q =>
          simp only [hquote] at hbehind
          rw [collapseFrom_quoted, hbehind]
      | none =>
          simp only [hquote] at hbehind hc
          cases hspace : isSpace c with
          | false => rw [collapseFrom_letter hspace, hbehind]; rfl
          | true =>
              -- a space outside of quotes comes before another character
              cases rest with
              | nil => exact absurd (hlast c rfl) (by simp [hspace])
              | cons d rest =>
                  simp only [hspace, Option.isSome_none, Bool.not_true, Bool.or_self,
                    Bool.false_or, Bool.and_eq_true, beq_iff_eq, List.head?_cons,
                    Option.any_some, Bool.not_eq_true'] at hc
                  obtain ⟨rfl, hd⟩ := hc
                  rw [if_neg (by decide), collapseFrom_letter hd] at hbehind
                  rw [collapseFrom_space hspace, collapseFrom_letter hd]
                  exact congrArg (' ' :: ·) hbehind

/-- **A value that has single spaces is not changed.** -/
theorem collapse_eq_self {cs : List Char} (h : isSingleSpaced outside cs = true)
    (htrimmed : IsTrimmed cs) : collapse cs = cs := by
  rw [collapse, htrimmed.trim_eq]
  exact collapseFrom_eq_self h htrimmed.last

/-! ### Marks at the end of a value -/

/-- A value ends with a mark exactly if one is split off. -/
theorem hasMark_iff (cs : List Char) : HasMark cs ↔ (splitPriority cs).2.isSome = true := by
  constructor
  · rintro ⟨before, behind, rfl, hnot, hmark⟩
    rw [splitPriority_marked hnot hmark]
    rfl
  · intro h
    by_contra hplain
    rw [splitPriority_unmarked hplain] at h
    cases h

instance (cs : List Char) : Decidable (HasMark cs) :=
  decidable_of_iff _ (hasMark_iff cs).symm

/-! ### Clauses -/

/-- The name of a property is in lower case unless it begins with two dashes. -/
theorem propertyName_eq (cs : List Char) :
    propertyName cs = if ['-', '-'] <+: cs then cs else cs.map Char.toLower := by
  by_cases h : ['-', '-'] <+: cs
  · rw [if_pos h]
    obtain ⟨rest, rfl⟩ := h
    rfl
  · rw [if_neg h]
    unfold propertyName
    split
    · next rest => exact absurd (List.prefix_append ['-', '-'] rest) h
    · rfl

/-- A character that a property may have. -/
def isPlain (c : Char) : Bool := !isSpace c && !isMark c && c != ':'

/-- A declaration of the grammar. -/
structure Clause where
  /-- The property. -/
  property : List Char
  /-- The value. -/
  value : List Char
  /-- The word of the priority mark, if there is one. -/
  word : Option (List Char)
  /-- There is a property. -/
  property_ne : property ≠ []
  /-- The property has no space, colon, semicolon, quote or parenthesis. -/
  property_plain : ∀ c ∈ property, isPlain c = true
  /-- There is a value. -/
  value_ne : value ≠ []
  /-- The value neither begins nor ends with space. -/
  value_trimmed : IsTrimmed value
  /-- Outside of quotes, the value has single spaces only. -/
  value_spaced : isSingleSpaced outside value = true
  /-- The value has no semicolon outside of quotes and parentheses, all of which it closes. -/
  value_closed : outside.read? value = some outside
  /-- The value does not end with a mark of its own. -/
  value_unmarked : ¬ HasMark value
  /-- The word of the mark is the one that there is, in any case. -/
  word_isPriority : ∀ w ∈ word, isPriority w = true

/-- Any space. -/
def Gap : Type := { cs : List Char // ∀ c ∈ cs, isSpace c = true }

/-- Any space at every place of a clause that may have some. -/
structure Gaps where
  /-- In front of the property. -/
  front : Gap
  /-- Between the property and the colon. -/
  beforeColon : Gap
  /-- Between the colon and the value. -/
  beforeValue : Gap
  /-- Between the value and the mark. -/
  beforeMark : Gap
  /-- Behind the exclamation mark. -/
  inMark : Gap
  /-- Behind the last part. -/
  behind : Gap

namespace Clause

/-- What a clause declares. -/
def declaration (c : Clause) : Declaration :=
  ⟨String.ofList (if ['-', '-'] <+: c.property then c.property else c.property.map Char.toLower),
    String.ofList c.value, c.word.map fun w => String.ofList ('!' :: w)⟩

/-- The value of a clause, and its mark. -/
def content (c : Clause) (g : Gaps) : List Char :=
  match c.word with
  | none => c.value
  | some w => c.value ++ (g.beforeMark.1 ++ '!' :: (g.inMark.1 ++ w))

/-- A clause without the space around it. -/
def core (c : Clause) (g : Gaps) : List Char :=
  c.property ++ (g.beforeColon.1 ++ ':' :: (g.beforeValue.1 ++ c.content g))

/-- A clause as it is spelled. -/
def text (c : Clause) (g : Gaps) : List Char :=
  g.front.1 ++ (c.core g ++ g.behind.1)

variable (c : Clause) (g : Gaps)

/-! #### Its parts -/

/-- The characters of a property. -/
theorem plain_property :
    ∀ d ∈ c.property, isSpace d = false ∧ isMark d = false ∧ d ≠ ':' := by
  intro d hd
  have hplain := c.property_plain d hd
  simp only [isPlain, Bool.and_eq_true, Bool.not_eq_true', bne_iff_ne] at hplain
  exact ⟨hplain.1.1, hplain.1.2, hplain.2⟩

/-- A property is trimmed. -/
theorem property_trimmed : IsTrimmed c.property :=
  IsTrimmed.of_forall fun d hd => (c.plain_property d hd).1

/-- The colon of a clause is the first one. -/
theorem colon_not_mem : ':' ∉ c.property ++ g.beforeColon.1 := by
  intro hmem
  rcases List.mem_append.mp hmem with hmem | hmem
  · exact (c.plain_property _ hmem).2.2 rfl
  · exact absurd (g.beforeColon.2 _ hmem) (by decide)

section

variable {c} {w : List Char}

/-- The word of a mark has letters only. -/
theorem word_isAlpha (hw : c.word = some w) : ∀ d ∈ w, d.isAlpha = true :=
  isAlpha_of_isPriority (c.word_isPriority w hw)

/-- The word of a mark is trimmed. -/
theorem word_trimmed (hw : c.word = some w) : IsTrimmed w :=
  IsTrimmed.of_forall fun d hd => Text.isSpace_of_isAlpha (word_isAlpha hw d hd)

/-- The word of a mark is some word. -/
theorem word_ne (hw : c.word = some w) : w ≠ [] := by
  rintro rfl
  exact absurd (c.word_isPriority [] hw) (by decide)

end

/-- A value with its mark is trimmed, and is some text. -/
theorem content_trimmed : IsTrimmed (c.content g) ∧ c.content g ≠ [] := by
  rw [content]
  cases hw : c.word with
  | none => exact ⟨c.value_trimmed, c.value_ne⟩
  | some w =>
      have hjoin := c.value_trimmed.join c.value_ne (word_trimmed hw) (word_ne hw)
        (g.beforeMark.1 ++ '!' :: g.inMark.1)
      exact ⟨by simpa using hjoin, by simp⟩

/-- A clause without the space around it is trimmed. -/
theorem core_trimmed : IsTrimmed (c.core g) := by
  obtain ⟨htrimmed, hne⟩ := c.content_trimmed g
  have hjoin := c.property_trimmed.join c.property_ne htrimmed hne
    (g.beforeColon.1 ++ ':' :: g.beforeValue.1)
  simpa [core] using hjoin

/-- Trimming takes away the space around a clause. -/
theorem trim_text : trim (c.text g) = c.core g :=
  Text.trim_surrounded g.front.2 g.behind.2 (c.core_trimmed g)

/-- There is some text in a clause. -/
theorem core_ne : c.core g ≠ [] := by
  rw [core]
  exact List.append_ne_nil_of_left_ne_nil c.property_ne _

/-! #### Where it is cut -/

/-- A clause has no marks but the ones of its value. -/
theorem marks_text : marks (c.text g) = marks c.value := by
  have hgap (gap : Gap) : marks gap.1 = [] :=
    marks_eq_nil fun d hd => isMark_of_isSpace (gap.2 d hd)
  have hproperty : marks c.property = [] := marks_eq_nil fun d hd => (c.plain_property d hd).2.1
  have hcontent : marks (c.content g) = marks c.value := by
    rw [content]
    cases hw : c.word with
    | none => rfl
    | some w =>
        have hword : marks w = [] :=
          marks_eq_nil fun d hd => isMark_of_isAlpha (word_isAlpha hw d hd)
        simp only [marks_append, hgap, marks_cons_of_not (show isMark '!' = false by decide),
          hword, List.append_nil]
  simp only [text, core, marks_append, hgap, hproperty,
    marks_cons_of_not (show isMark ':' = false by decide), hcontent, List.nil_append,
    List.append_nil]

/-- A clause is not cut, and closes its quotes and parentheses. -/
theorem text_closed : outside.read? (c.text g) = some outside := by
  rw [Nesting.read?_congr (c.marks_text g), c.value_closed]

/-! #### How it is read -/

/-- The value and the mark are found behind the colon. -/
theorem splitPriority_content :
    ∃ before, splitPriority (g.beforeValue.1 ++ c.content g) =
        (before, c.word.map ('!' :: ·)) ∧ collapse before = c.value := by
  have hvalue := collapse_eq_self c.value_spaced c.value_trimmed
  rw [content]
  cases hw : c.word with
  | none =>
      refine ⟨g.beforeValue.1 ++ c.value, splitPriority_unmarked fun hmark => ?_, ?_⟩
      · exact c.value_unmarked (hasMark_of_spaces g.beforeValue.2 hmark)
      · rw [collapse_congr (Text.trim_spaces_append g.beforeValue.2 c.value), hvalue]
  | some w =>
      have htrim : trim (g.inMark.1 ++ w) = w := by
        rw [Text.trim_spaces_append g.inMark.2, (word_trimmed hw).trim_eq]
      have hnot : '!' ∉ g.inMark.1 ++ w := by
        intro hmem
        rcases List.mem_append.mp hmem with hmem | hmem
        · exact absurd (g.inMark.2 _ hmem) (by decide)
        · exact absurd (word_isAlpha hw _ hmem) (by decide)
      have hsplit := splitPriority_marked hnot (by rw [htrim]; exact c.word_isPriority w hw)
        (g.beforeValue.1 ++ (c.value ++ g.beforeMark.1))
      refine ⟨_, by simpa [htrim] using hsplit, ?_⟩
      have hbefore : trim (trimEnd (g.beforeValue.1 ++ (c.value ++ g.beforeMark.1))) =
          trim c.value := by
        rw [Text.trim_trimEnd, Text.trim_spaces_append g.beforeValue.2,
          Text.trim_append_spaces g.beforeMark.2]
      rw [collapse_congr hbefore, hvalue]

/-- **A clause is read, whatever the space around its parts.** -/
theorem readDeclaration_trim_text : readDeclaration (trim (c.text g)) = c.declaration := by
  obtain ⟨before, hsplit, hcollapse⟩ := c.splitPriority_content g
  have hcolon := splitAtFirst_append (c.colon_not_mem g) (g.beforeValue.1 ++ c.content g)
  rw [List.append_assoc] at hcolon
  have hproperty : trim (c.property ++ g.beforeColon.1) = c.property := by
    rw [Text.trim_append_spaces g.beforeColon.2, c.property_trimmed.trim_eq]
  rw [c.trim_text, core, declaration, ← propertyName_eq]
  simp only [readDeclaration, hcolon, hsplit, hcollapse, hproperty, Option.map_map]
  rfl

end Clause

/-! ### Spellings -/

/-- The ways to spell a list of clauses: each of them with some space, and empty declarations
between them. -/
inductive Spelling : List Clause → Type where
  /-- Nothing is left to spell. -/
  | done : Spelling []
  /-- An empty declaration, with any space. -/
  | empty {cs : List Clause} (gap : Gap) (rest : Spelling cs) : Spelling cs
  /-- A clause, with any space around its parts. -/
  | clause {cs : List Clause} (c : Clause) (gaps : Gaps) (rest : Spelling cs) : Spelling (c :: cs)

namespace Spelling

variable {cs : List Clause}

/-- The texts between the separators of a spelling. -/
def parts {cs : List Clause} : Spelling cs → List (List Char)
  | .done => []
  | .empty gap rest => gap.1 :: rest.parts
  | .clause c gaps rest => c.text gaps :: rest.parts

/-- A spelling as a style. -/
def text (s : Spelling cs) : String := String.ofList ([';'].intercalate s.parts)

/-- The texts between the separators are not cut, and close their quotes and parentheses. -/
theorem closed_of_mem (s : Spelling cs) : ∀ part ∈ s.parts, outside.read? part = some outside := by
  induction s with
  | done => intro part hpart; cases hpart
  | empty gap rest ih =>
      rw [parts, List.forall_mem_cons]
      refine ⟨?_, ih⟩
      have hmarks : marks gap.1 = marks [] :=
        marks_eq_nil fun d hd => isMark_of_isSpace (gap.2 d hd)
      rw [Nesting.read?_congr hmarks, Nesting.read?]
  | clause c gaps rest ih =>
      rw [parts, List.forall_mem_cons]
      exact ⟨c.text_closed gaps, ih⟩

/-- What is read of the texts between the separators are the clauses. -/
theorem map_readDeclaration_parts (s : Spelling cs) :
    ((s.parts.map trim).filter fun part => !part.isEmpty).map readDeclaration =
      cs.map Clause.declaration := by
  induction s with
  | done => rfl
  | empty gap rest ih =>
      have hnil : trim gap.1 = [] := by
        have htrim := Text.trim_append_spaces gap.2 []
        rwa [List.nil_append, IsTrimmed.nil.trim_eq] at htrim
      rw [parts, List.map_cons, hnil, List.filter_cons_of_neg (by simp), ih]
  | clause c gaps rest ih =>
      have hne : trim (c.text gaps) ≠ [] := by
        rw [c.trim_text]
        exact c.core_ne gaps
      rw [parts, List.map_cons, List.filter_cons_of_pos (by simpa using hne), List.map_cons, ih,
        c.readDeclaration_trim_text, List.map_cons]

end Spelling

/-- Texts that are not cut are the parts of a style that is made of them. -/
theorem split_intercalate {parts : List (List Char)} (hne : parts ≠ [])
    (h : ∀ part ∈ parts, outside.read? part = some outside) :
    split ([';'].intercalate parts) = parts := by
  induction parts with
  | nil => exact absurd rfl hne
  | cons part rest ih =>
      rw [List.forall_mem_cons] at h
      cases rest with
      | nil => rw [List.intercalate_singleton, split_of_read h.1]
      | cons next rest =>
          rw [List.intercalate_cons_cons, List.append_assoc, List.singleton_append,
            split_append h.1, ih (List.cons_ne_nil _ _) h.2]

/-- **Every spelling is read as its clauses.** -/
theorem Spelling.parse_text {cs : List Clause} (s : Spelling cs) :
    parse s.text = cs.map Clause.declaration := by
  rw [← s.map_readDeclaration_parts, parse_eq, pieces, Spelling.text, String.toList_ofList]
  by_cases hparts : s.parts = []
  · rw [hparts, List.intercalate_nil, split_of_read (show outside.read? [] = some outside from rfl)]
    rfl
  · rw [split_intercalate hparts s.closed_of_mem]

/-- **Every spelling is read as its clauses**, and compares equal to every other spelling of
them. -/
theorem parse_spelling {cs : List Clause} (s : Spelling cs) :
    parse s.text = cs.map Clause.declaration ∧
      ∀ (t : Spelling cs) (name : String), AttributeKind.ofName name = .style →
        sameAttribute name (some s.text) (some t.text) = true := by
  refine ⟨s.parse_text, fun t name hname => ?_⟩
  have hsame : normalize s.text = normalize t.text := by
    rw [normalize, s.parse_text, normalize, t.parse_text]
  rw [sameAttribute, canonicalAttribute, canonicalAttribute, Option.bind_some, Option.bind_some]
  simp only [hname, AttributeKind.canonicalize, hsame, beq_self_eq_true]

/-- A custom property with a semicolon and two spaces in quotes, and a mark. -/
def quotedClause : Clause where
  property := "--Main-Color".toList
  value := "url(\"a;b\"), 'x  y'".toList
  word := some "ImPortant".toList
  property_ne := by decide +kernel
  property_plain := List.all_eq_true.mp (by decide +kernel)
  value_ne := by decide +kernel
  value_trimmed := by decide +kernel
  value_spaced := by decide +kernel
  value_closed := by decide +kernel
  value_unmarked := by decide +kernel
  word_isPriority := fun _ hw => by cases hw; decide +kernel

/-- A property in capitals, and a value with a colon and an exclamation mark. -/
def bangClause : Clause where
  property := "COLOR".toList
  value := "a:b !x".toList
  word := none
  property_ne := by decide +kernel
  property_plain := List.all_eq_true.mp (by decide +kernel)
  value_ne := by decide +kernel
  value_trimmed := by decide +kernel
  value_spaced := by decide +kernel
  value_closed := by decide +kernel
  value_unmarked := by decide +kernel
  word_isPriority := fun _ hw => by cases hw

/-- No space. -/
def Gap.none : Gap := ⟨[], fun _ hc => by cases hc⟩

/-- Two spaces of different kinds. -/
def Gap.wide : Gap := ⟨"\u2003\t".toList, List.all_eq_true.mp (by decide +kernel)⟩

/-- The same space at every place. -/
def Gaps.all (gap : Gap) : Gaps := ⟨gap, gap, gap, gap, gap, gap⟩

/-- A spelling with all kinds of space, and an empty declaration. -/
def wideSpelling : Spelling [quotedClause, bangClause] :=
  .clause _ (.all .wide) (.empty .wide (.clause _ (.all .none) .done))

/-- A spelling without space. -/
def tightSpelling : Spelling [quotedClause, bangClause] :=
  .clause _ (.all .none) (.clause _ (.all .none) (.empty .none .done))

/-- With space and without, two clauses are read alike. -/
theorem parse_spelling_spaced :
    wideSpelling.text = "\u2003\t--Main-Color\u2003\t:\u2003\turl(\"a;b\"), 'x  y'\u2003\t" ++
      "!\u2003\tImPortant\u2003\t;\u2003\t;COLOR:a:b !x" ∧
    tightSpelling.text = "--Main-Color:url(\"a;b\"), 'x  y'!ImPortant;COLOR:a:b !x;" ∧
    parse wideSpelling.text = [⟨"--Main-Color", "url(\"a;b\"), 'x  y'", some "!ImPortant"⟩,
      ⟨"color", "a:b !x", none⟩] ∧
    AttributeKind.ofName "style" = .style ∧
    sameAttribute "style" (some wideSpelling.text) (some tightSpelling.text) = true := by
  have hname : AttributeKind.ofName "style" = .style := if_pos (Text.sameIgnoringCase_self "style")
  obtain ⟨hparse, hsame⟩ := parse_spelling wideSpelling
  refine ⟨?_, ?_, hparse.trans ?_, hname, hsame tightSpelling "style" hname⟩
  · decide +kernel
  · decide +kernel
  · decide +kernel

end TwinRender.Style
