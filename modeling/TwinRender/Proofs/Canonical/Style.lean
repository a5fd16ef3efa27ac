import TwinRender.Proofs.Canonical.Declaration

/-!
# The written form of a style

A style is written from its declarations, and the written form is read again. It is read as the
same declarations if the quotes and parentheses of the style are closed and its bare properties
have single spaces; it is its own written form exactly then. Where a quotation or a parenthesis is
left open, the semicolon that ends the written form is read as a part of the last declaration, and
each writing adds another one. A bare property that is empty, or has more than single spaces, is
not the same when it is read without its colon.

## Main definitions

* `Style.Declaration.IsStable`: a declaration that is read back when it is written.
* `Style.IsStable`: a style that is read back when it is written.

## Main results

* `Style.parse_normalize`: a stable style is read back from its written form.
* `Style.normalize_normalize_iff`: **the written form is its own written form exactly for stable
  styles**.
* `Style.parse_normalize_iff`: **writing loses nothing exactly of stable styles**.
-/

namespace TwinRender.Style

open Text (isSpace trim IsTrimmed)
open Nesting (outside)

/-! ### Stable declarations -/

/-- A declaration that is read back when it is written. Where only a property is written, it needs
text, with single spaces. -/
def Declaration.IsStable (d : Declaration) : Prop :=
  d.value = "" → d.priority = none →
    d.property ≠ "" ∧ collapse d.property.toList = d.property.toList

/-- A declaration as it is written after it has been read. -/
def rewritten (cs : List Char) : List Char := (readDeclaration cs).text.toList

/-- The written form of a declaration keeps the marks of the text from which it was read. -/
theorem marks_rewritten (cs : List Char) : marks (rewritten cs) = marks cs := by
  obtain ⟨property, value, mark, hd, hread, hmarks⟩ := exists_isRead cs
  rw [rewritten, hd, toList_text property value mark hread.mark_ne, hmarks]

/-- The written form of a declaration is trimmed. -/
theorem isTrimmed_rewritten (cs : List Char) : IsTrimmed (rewritten cs) := by
  obtain ⟨property, value, mark, hd, hread, -⟩ := exists_isRead cs
  rw [rewritten, hd, toList_text property value mark hread.mark_ne]
  exact hread.declaration_trimmed

/-- A declaration that has more than a property is stable, and read back. One without more is
written as its property and read as text. -/
theorem rewritten_cases (cs : List Char) :
    (readDeclaration cs).IsStable ∧ rewritten cs ≠ [] ∧
        readDeclaration (rewritten cs) = readDeclaration cs ∨
      ∃ property, readDeclaration cs = ⟨String.ofList property, "", none⟩ ∧
        rewritten cs = property ∧
        readDeclaration property = ⟨String.ofList (collapse property), "", none⟩ := by
  obtain ⟨property, value, mark, hd, hread, -⟩ := exists_isRead cs
  have hrewritten : rewritten cs = writtenDeclaration property (written value mark) := by
    rw [rewritten, hd, toList_text property value mark hread.mark_ne]
  by_cases hne : written value mark = []
  · have hbare : value = [] ∧ mark = none := by
      cases mark with
      | none => exact ⟨hne, rfl⟩
      | some m =>
          rw [written] at hne
          split at hne
          · exact absurd (congrArg some hne) hread.mark_ne
          · exact absurd hne (by simp)
    have hreread := hread.readDeclaration_bare hne
    rw [writtenDeclaration, if_pos hne] at hrewritten hreread
    obtain ⟨rfl, rfl⟩ := hbare
    exact Or.inr ⟨property, hd, hrewritten, hreread⟩
  · refine Or.inl ⟨fun hvalue hmark => absurd ?_ hne, ?_, ?_⟩
    · rw [hd] at hvalue hmark
      have hnil : value = [] := by simpa using hvalue
      have hnone : mark = none := by simpa using hmark
      rw [hnil, hnone, written]
    · rw [hrewritten, writtenDeclaration, if_neg hne]
      simp
    · rw [hrewritten, hread.readDeclaration_written hne, hd]

/-- A stable declaration is some text, and is read back. -/
theorem Declaration.IsStable.reread {cs : List Char} (h : (readDeclaration cs).IsStable) :
    rewritten cs ≠ [] ∧ readDeclaration (rewritten cs) = readDeclaration cs := by
  rcases rewritten_cases cs with ⟨-, hreread⟩ | ⟨property, hd, hrewritten, hreread⟩
  · exact hreread
  · rw [hd] at h
    obtain ⟨hne, hcollapse⟩ := h rfl rfl
    rw [String.toList_ofList] at hcollapse
    rw [hrewritten, hreread, hcollapse, hd]
    exact ⟨fun hnil => hne (congrArg String.ofList hnil), rfl⟩

/-- A declaration is stable if it is some text, and is written alike once more. -/
theorem isStable_of_rewritten {cs : List Char} (hne : rewritten cs ≠ [])
    (h : rewritten (rewritten cs) = rewritten cs) : (readDeclaration cs).IsStable := by
  rcases rewritten_cases cs with ⟨hstable, -⟩ | ⟨property, hd, hrewritten, hreread⟩
  · exact hstable
  · rw [hrewritten] at hne h
    rw [rewritten, hreread] at h
    rw [hd]
    refine fun _ _ => ⟨fun hempty => hne ?_, ?_⟩
    · simpa using hempty
    · rw [String.toList_ofList]
      simpa [Declaration.text] using h

/-! ### Written styles -/

/-- Declarations as a style is written from them. -/
def join (texts : List (List Char)) : List Char := [' '].intercalate (texts.map (· ++ [';']))

/-- More declarations stand behind a semicolon and a space. -/
theorem join_cons (t : List Char) {rest : List (List Char)} (h : rest ≠ []) :
    join (t :: rest) = t ++ ';' :: ' ' :: join rest := by
  obtain ⟨next, others, rfl⟩ := List.exists_cons_of_ne_nil h
  rw [join, List.map_cons, List.map_cons, List.intercalate_cons_cons, join, List.map_cons]
  simp

/-- One declaration ends with a semicolon. -/
theorem join_singleton (t : List Char) : join [t] = t ++ [';'] := by
  rw [join, List.map_singleton, List.intercalate_singleton]

/-- The texts that are read as declarations. -/
def pieces (cs : List Char) : List (List Char) :=
  ((split cs).map trim).filter fun part => !part.isEmpty

/-- The declarations of a style are read from its pieces. -/
theorem parse_eq (raw : String) : parse raw = (pieces raw.toList).map readDeclaration := rfl

/-- A style is written from what its pieces are rewritten to. -/
theorem toList_normalize (raw : String) :
    (normalize raw).toList = join ((pieces raw.toList).map rewritten) := by
  rw [normalize, parse_eq, render, String.toList_intercalate, join, List.map_map, List.map_map,
    List.map_map]
  congr 1
  exact List.map_congr_left fun d _ => String.toList_append

/-- A text that is closed and trimmed. -/
structure IsPart (t : List Char) : Prop where
  /-- Quotes and parentheses are closed, and nothing is cut. -/
  closed : outside.read? t = some outside
  /-- There is no space around it. -/
  trimmed : IsTrimmed t

/-- **The parts of a written style are its declarations**, and no text behind the last one. -/
theorem map_trim_split_join {texts : List (List Char)} (h : ∀ t ∈ texts, IsPart t) :
    (split (join texts)).map trim = texts ++ [[]] := by
  have hspace (cs : List Char) : (split (' ' :: cs)).map trim = (split cs).map trim := by
    rw [split_space, split, List.map_cons, List.map_cons, Text.trim_cons_space (by decide)]
  have hnil : split [] = [[]] := split_of_read rfl
  induction texts with
  | nil => rw [join, List.map_nil, List.intercalate_nil, hnil]; rfl
  | cons t rest ih =>
      rw [List.forall_mem_cons] at h
      cases rest with
      | nil =>
          rw [join_singleton, split_append h.1.closed, hnil, List.map_cons, h.1.trimmed.trim_eq]
          rfl
      | cons next rest =>
          rw [join_cons t (by simp), split_append h.1.closed, List.map_cons, hspace, ih h.2,
            h.1.trimmed.trim_eq]
          rfl

/-- What is written for a closed text is a part of a style. -/
theorem isPart_rewritten {cs : List Char} (h : outside.read? cs = some outside) :
    IsPart (rewritten cs) :=
  ⟨by rwa [Nesting.read?_congr (marks_rewritten cs)], isTrimmed_rewritten cs⟩

/-! ### Closed styles -/

/-- What is written for the pieces of a closed style are parts of a style. -/
theorem isPart_of_mem {cs : List Char} (h : outside.after cs = outside) :
    ∀ t ∈ (pieces cs).map rewritten, IsPart t := by
  intro t ht
  obtain ⟨piece, hpiece, rfl⟩ := List.mem_map.mp ht
  obtain ⟨part, hpart, rfl⟩ := List.mem_map.mp (List.mem_of_mem_filter hpiece)
  refine isPart_rewritten ?_
  rw [Nesting.read?_congr (marks_congr (Text.dense_trim part))]
  exact read?_of_mem_split h hpart

/-- The pieces of the written form of a closed style are what its pieces are rewritten to, if that
is some text. -/
theorem pieces_normalize {raw : String} (h : outside.after raw.toList = outside) :
    pieces (normalize raw).toList =
      ((pieces raw.toList).map rewritten).filter fun t => !t.isEmpty := by
  rw [toList_normalize, pieces, map_trim_split_join (isPart_of_mem h), List.filter_append]
  exact List.append_nil _

/-- A style that is read back when it is written. -/
structure IsStable (raw : String) : Prop where
  /-- Quotes and parentheses are closed at the end. -/
  closed : outside.after raw.toList = outside
  /-- Every declaration is read back. -/
  declarations : ∀ d ∈ parse raw, d.IsStable

/-- **A stable style is read back from its written form.** -/
theorem parse_normalize {raw : String} (h : IsStable raw) : parse (normalize raw) = parse raw := by
  have hstable (piece : List Char) (hpiece : piece ∈ pieces raw.toList) :=
    (h.declarations _ (List.mem_map_of_mem hpiece)).reread
  have hfilter : ((pieces raw.toList).map rewritten).filter (fun t => !t.isEmpty) =
      (pieces raw.toList).map rewritten := by
    rw [List.filter_eq_self]
    intro t ht
    obtain ⟨piece, hpiece, rfl⟩ := List.mem_map.mp ht
    simpa using (hstable piece hpiece).1
  rw [parse_eq, pieces_normalize h.closed, hfilter, List.map_map, parse_eq]
  exact List.map_congr_left fun piece hpiece => (hstable piece hpiece).2

/-- The declarations of a closed style are stable if the written form is its own written form. -/
theorem isStable_of_normalize {raw : String} (h : normalize (normalize raw) = normalize raw)
    (hclosed : outside.after raw.toList = outside) : ∀ d ∈ parse raw, d.IsStable := by
  have hparts := isPart_of_mem hclosed
  have htexts := congrArg String.toList h
  rw [toList_normalize, pieces_normalize hclosed, toList_normalize] at htexts
  generalize hmap : (pieces raw.toList).map rewritten = texts at hparts htexts
  -- the same is written for each text once more
  have hagain : (texts.filter fun t => !t.isEmpty).map rewritten = texts := by
    have hagainParts : ∀ t ∈ (texts.filter fun t => !t.isEmpty).map rewritten, IsPart t := by
      intro t ht
      obtain ⟨s, hs, rfl⟩ := List.mem_map.mp ht
      exact isPart_rewritten (hparts s (List.mem_of_mem_filter hs)).closed
    have hsplit := map_trim_split_join hagainParts
    rw [htexts, map_trim_split_join hparts] at hsplit
    exact (List.append_cancel_right hsplit).symm
  have hall : texts.filter (fun t => !t.isEmpty) = texts := by
    refine List.filter_sublist.eq_of_length ?_
    have hlength := congrArg List.length hagain
    rwa [List.length_map] at hlength
  rw [hall] at hagain
  intro d hd
  obtain ⟨piece, hpiece, rfl⟩ := List.mem_map.mp hd
  have hmem : rewritten piece ∈ texts := hmap ▸ List.mem_map_of_mem hpiece
  refine isStable_of_rewritten ?_ (List.map_inj_left.mp (hagain.trans (List.map_id _).symm) _ hmem)
  simpa using List.filter_eq_self.mp hall _ hmem

/-! ### Styles that are not closed -/

/-- The last part of a written style ends with the semicolon behind it if it is not closed. -/
theorem marks_lastPart_join {texts : List (List Char)}
    (h : ∀ t ∈ texts, outside.read? t = some outside) {t : List Char} {n : Nesting}
    (ht : outside.read? (t ++ [';']) = some n) :
    marks (lastPart (join (texts ++ [t]))) = marks (t ++ [';']) := by
  induction texts with
  | nil => rw [List.nil_append, join_singleton, lastPart_of_read ht]
  | cons s rest ih =>
      rw [List.forall_mem_cons] at h
      rw [List.cons_append, join_cons s (by simp), lastPart_append h.1, marks_lastPart_space,
        ih h.2]

/-- The last piece of a style that is not closed is its last part; the pieces before it are
closed. -/
theorem exists_pieces {cs : List Char} (h : outside.after cs ≠ outside) :
    ∃ before, pieces cs = before ++ [trim (lastPart cs)] ∧
      ∀ t ∈ before, outside.read? t = some outside := by
  obtain ⟨closed, hsplit, hclosed, hlast⟩ := exists_split cs
  have htrim (part : List Char) : outside.read? (trim part) = outside.read? part :=
    Nesting.read?_congr (marks_congr (Text.dense_trim part))
  have hne : (!(trim (lastPart cs)).isEmpty) = true := by
    rw [Bool.not_eq_true', List.isEmpty_eq_false_iff]
    intro hnil
    rw [← htrim, hnil] at hlast
    exact h (Option.some.inj hlast).symm
  refine ⟨(closed.map trim).filter fun part => !part.isEmpty, ?_, fun t ht => ?_⟩
  · rw [pieces, hsplit, List.map_append, List.filter_append, List.map_singleton,
      List.filter_singleton, hne, cond_true]
  · obtain ⟨part, hpart, rfl⟩ := List.mem_map.mp (List.mem_of_mem_filter ht)
    rw [htrim, hclosed part hpart]

/-- A semicolon that does not separate is read. -/
theorem read?_semicolon {t : List Char} {n : Nesting} (ht : outside.read? t = some n)
    (hn : n ≠ outside) : outside.read? (t ++ [';']) = some n := by
  have hvalid := Nesting.isValid_outside.read ht
  rw [Nesting.read?_append, ht, Option.bind_some, Nesting.read?,
    if_neg (by rw [Nesting.separates_of_ne hn]; exact Bool.false_ne_true), hvalid.step_semicolon,
    Nesting.read?]

/-- **A style that is not closed gets one more semicolon each time it is written**, and is not
closed then either. -/
theorem lastPart_normalize {raw : String} (h : outside.after raw.toList ≠ outside) :
    marks (lastPart (normalize raw).toList) = marks (lastPart raw.toList) ++ [';'] ∧
      outside.after (normalize raw).toList ≠ outside := by
  obtain ⟨before, hpieces, hbefore⟩ := exists_pieces h
  obtain ⟨-, -, -, hlast⟩ := exists_split raw.toList
  have hmarks : marks (rewritten (trim (lastPart raw.toList))) = marks (lastPart raw.toList) := by
    rw [marks_rewritten, marks_congr (Text.dense_trim _)]
  have htexts : ∀ t ∈ before.map rewritten, outside.read? t = some outside := by
    intro t ht
    obtain ⟨piece, hpiece, rfl⟩ := List.mem_map.mp ht
    rw [Nesting.read?_congr (marks_rewritten piece), hbefore piece hpiece]
  -- the semicolon behind the last declaration is read as a part of it
  rw [← Nesting.read?_congr hmarks] at hlast
  have hread := read?_semicolon hlast h
  have hwritten := marks_lastPart_join htexts hread
  rw [← List.map_singleton, ← List.map_append, ← hpieces, ← toList_normalize] at hwritten
  refine ⟨?_, ?_⟩
  · have hsemicolon : marks [';'] = [';'] := by decide
    rw [hwritten, marks_append, hmarks, hsemicolon]
  · obtain ⟨-, -, -, hagain⟩ := exists_split (normalize raw).toList
    rw [Nesting.read?_congr hwritten, hread] at hagain
    rw [← Option.some.inj hagain]
    exact h

/-- **The written form of a style is its own written form exactly if the style is stable.** -/
theorem normalize_normalize_iff (raw : String) :
    normalize (normalize raw) = normalize raw ↔ IsStable raw := by
  constructor
  · intro h
    by_cases hclosed : outside.after raw.toList = outside
    · exact ⟨hclosed, isStable_of_normalize h hclosed⟩
    · -- the written form is not closed, so that it is written with another semicolon
      obtain ⟨-, hopen⟩ := lastPart_normalize hclosed
      obtain ⟨hmore, -⟩ := lastPart_normalize hopen
      rw [h] at hmore
      exact absurd hmore (by simp)
  · intro h
    rw [normalize, parse_normalize h, ← normalize]

/-- **Writing loses nothing of a style exactly if the style is stable**: the same declarations are
read back, in the same order and with the same properties, values and marks. Then, and only then,
the written form is its own written form. -/
theorem parse_normalize_iff (raw : String) :
    (parse (normalize raw) = parse raw ↔ IsStable raw) ∧
      (normalize (normalize raw) = normalize raw ↔ IsStable raw) := by
  refine ⟨⟨fun h => ?_, parse_normalize⟩, normalize_normalize_iff raw⟩
  -- what is written depends on nothing but what was read
  have hagain : normalize (normalize raw) = normalize raw := by
    rw [normalize, h, ← normalize]
  exact (normalize_normalize_iff raw).mp hagain

/-- A bare word, a quotation in a property, a separator in parentheses, two marks, and other spaces
than the common one. -/
example : normalize "a\u2003 b;'X;Y' : url( x;y )\u00a0;w:1 !important ! IMPORTANT" =
    "a b; 'x;y': url( x;y ); w: 1 !important !IMPORTANT;" := by
  decide +kernel

end TwinRender.Style
