import TwinRender.Canonical.Style
import TwinRender.Proofs.Canonical.Space

/-!
# Where a style is cut

A style is cut at the semicolons outside quotes and parentheses. Where these are depends on the
quotes, parentheses and semicolons of the text alone, its marks: texts with the same marks are read
alike, however they are spaced or written otherwise. A text that is read without a cut is one part
wherever it stands, and a style is a list of such parts.

## Main definitions

* `Style.marks`: the characters on which the reading depends.
* `Style.Nesting.read?`: reading a text in which nothing is cut.
* `Style.lastPart`: what stands behind the last separator.

## Main results

* `Style.Nesting.read?_marks`: only marks matter.
* `Style.split_append`: a part in front of a separator is split off.
* `Style.read?_of_mem_split`: the parts of a style whose quotes and parentheses are closed are
  closed themselves.
-/

namespace TwinRender.Style

open Text (isSpace dense)

/-! ### Marks -/

/-- A character on which it depends where a style is cut. -/
def isMark (c : Char) : Bool := c == '"' || c == '\'' || c == '(' || c == ')' || c == ';'

/-- The marks of a text, in order. -/
def marks (cs : List Char) : List Char := cs.filter isMark

/-- Marks are collected part by part. -/
@[simp] theorem marks_append (a b : List Char) : marks (a ++ b) = marks a ++ marks b :=
  List.filter_append ..

/-- A character that is no mark is not collected. -/
theorem marks_cons_of_not {c : Char} (h : isMark c = false) (cs : List Char) :
    marks (c :: cs) = marks cs := by
  rw [marks, List.filter_cons_of_neg (by simp [h]), ← marks]

/-- No mark is a space. -/
theorem isMark_of_isSpace {c : Char} (h : isSpace c = true) : isMark c = false := by
  rw [Bool.eq_false_iff]
  intro hmark
  simp only [isMark, Bool.or_eq_true, beq_iff_eq] at hmark
  rcases hmark with (((rfl | rfl) | rfl) | rfl) | rfl <;> exact absurd h (by decide)

/-- No letter is a mark. -/
theorem isMark_of_isAlpha {c : Char} (h : c.isAlpha = true) : isMark c = false := by
  rw [Bool.eq_false_iff]
  intro hmark
  simp only [isMark, Bool.or_eq_true, beq_iff_eq] at hmark
  rcases hmark with (((rfl | rfl) | rfl) | rfl) | rfl <;> exact absurd h (by decide)

/-- A text without marks has none to collect. -/
theorem marks_eq_nil {cs : List Char} (h : ∀ c ∈ cs, isMark c = false) : marks cs = [] := by
  rw [marks, List.filter_eq_nil_iff]
  intro c hc
  simp [h c hc]

/-- Space does not matter for the marks. -/
@[simp] theorem marks_dense (cs : List Char) : marks (dense cs) = marks cs := by
  rw [marks, marks, dense, List.filter_filter]
  refine List.filter_congr fun c _ => ?_
  cases hspace : isSpace c with
  | true => rw [isMark_of_isSpace hspace]; rfl
  | false => simp

/-- Texts that differ only in space have the same marks. -/
theorem marks_congr {a b : List Char} (h : dense a = dense b) : marks a = marks b := by
  rw [← marks_dense a, h, marks_dense]

/-- Lowering a text keeps its marks. -/
theorem marks_map_toLower (cs : List Char) : marks (cs.map Char.toLower) = marks cs := by
  have hlower (c : Char) : (isMark c.toLower = isMark c) ∧ (isMark c = true → c.toLower = c) := by
    by_cases hupper : c.isUpper = true
    · -- neither a capital letter nor its lowercase form is a mark
      have halpha : c.isAlpha = true := by rw [Char.isAlpha, hupper, Bool.true_or]
      have hlow : c.toLower.isAlpha = true := by rw [Char.isAlpha_toLower_eq_isAlpha, halpha]
      rw [isMark_of_isAlpha halpha, isMark_of_isAlpha hlow]
      exact ⟨rfl, fun h => absurd h Bool.false_ne_true⟩
    · rw [Char.toLower_eq_of_not_isUpper hupper]
      exact ⟨rfl, fun _ => rfl⟩
  induction cs with
  | nil => rfl
  | cons c rest ih =>
      rw [List.map_cons]
      cases hmark : isMark c with
      | true =>
          rw [(hlower c).2 hmark, marks, List.filter_cons_of_pos hmark, marks,
            List.filter_cons_of_pos hmark, ← marks, ih, ← marks]
      | false =>
          rw [marks_cons_of_not ((hlower c).1.trans hmark), marks_cons_of_not hmark, ih]

namespace Nesting

/-! ### Reading without a cut -/

/-- Quotations are in one of the two kinds of quotes. -/
def IsValid (n : Nesting) : Prop := ∀ q, n.quote = some q → q = '"' ∨ q = '\''

/-- Outside of quotes every nesting is valid. -/
theorem isValid_of_none (depth : Nat) : IsValid ⟨none, depth⟩ := fun _ h => by simp at h

/-- Outside of quotes and parentheses the nesting is valid. -/
theorem isValid_outside : outside.IsValid := isValid_of_none 0

/-- A character keeps the nesting valid. -/
theorem IsValid.step {n : Nesting} (h : n.IsValid) (c : Char) : (n.step c).IsValid := by
  obtain ⟨quote, depth⟩ := n
  cases quote with
  | some q =>
      by_cases hc : c = q
      · simpa only [Nesting.step, if_pos hc] using isValid_of_none depth
      · simpa only [Nesting.step, if_neg hc] using h
  | none =>
      simp only [Nesting.step]
      split
      · next hc => exact fun q hq => Option.some.inj hq ▸ hc
      · split
        · exact isValid_of_none _
        · split <;> exact isValid_of_none _

/-- A character that is no mark does not change the nesting. -/
theorem IsValid.step_of_not {n : Nesting} (h : n.IsValid) {c : Char} (hc : isMark c = false) :
    n.step c = n := by
  simp only [isMark, Bool.or_eq_false_iff, beq_eq_false_iff_ne] at hc
  obtain ⟨⟨⟨⟨hdouble, hsingle⟩, hopen⟩, hclose⟩, -⟩ := hc
  obtain ⟨quote, depth⟩ := n
  cases quote with
  | some q =>
      have hne : c ≠ q := by
        rintro rfl
        exact (h c rfl).elim hdouble hsingle
      simp [Nesting.step, hne]
  | none => simp [Nesting.step, hdouble, hsingle, hopen, hclose]

/-- A semicolon does not change the nesting. -/
theorem IsValid.step_semicolon {n : Nesting} (h : n.IsValid) : n.step ';' = n := by
  obtain ⟨quote, depth⟩ := n
  cases quote with
  | some q =>
      have hne : ';' ≠ q := by
        rintro rfl
        exact absurd (h ';' rfl) (by decide)
      simp [Nesting.step, hne]
  | none => simp [Nesting.step]

/-- A semicolon is a separator outside of quotes and parentheses. -/
theorem separates_outside : outside.separates ';' = true := by decide

/-- Elsewhere nothing is a separator. -/
theorem separates_of_ne {n : Nesting} (h : n ≠ outside) (c : Char) : n.separates c = false := by
  rw [Bool.eq_false_iff]
  intro hsep
  simp only [separates, Bool.and_eq_true, Option.isNone_iff_eq_none, beq_iff_eq] at hsep
  exact h (congrArg₂ Nesting.mk hsep.1.1 hsep.1.2)

/-- What separates is a semicolon, outside of quotes and parentheses. -/
theorem eq_of_separates {n : Nesting} {c : Char} (h : n.separates c = true) :
    n = outside ∧ c = ';' := by
  simp only [separates, Bool.and_eq_true, Option.isNone_iff_eq_none, beq_iff_eq] at h
  exact ⟨congrArg₂ Nesting.mk h.1.1 h.1.2, h.2⟩

/-- The nesting behind a text in which nothing is cut; none if something is. -/
def read? (n : Nesting) : List Char → Option Nesting
  | [] => some n
  | c :: cs => if n.separates c then none else (n.step c).read? cs

/-- A text is read part by part. -/
theorem read?_append (n : Nesting) (a b : List Char) :
    n.read? (a ++ b) = (n.read? a).bind fun m => m.read? b := by
  induction a generalizing n with
  | nil => rfl
  | cons c rest ih =>
      rw [List.cons_append, read?, read?]
      split
      · rfl
      · exact ih (n.step c)

/-- What is read without a cut keeps the nesting valid. -/
theorem IsValid.read {n m : Nesting} (h : n.IsValid) {cs : List Char}
    (hread : n.read? cs = some m) : m.IsValid := by
  induction cs generalizing n with
  | nil => cases hread; exact h
  | cons c rest ih =>
      rw [read?] at hread
      split at hread
      · cases hread
      · exact ih (h.step c) hread

/-- **Only marks matter** for how a text is read. -/
theorem IsValid.read?_marks {n : Nesting} (h : n.IsValid) (cs : List Char) :
    n.read? (marks cs) = n.read? cs := by
  induction cs generalizing n with
  | nil => rfl
  | cons c rest ih =>
      cases hmark : isMark c with
      | true =>
          rw [marks, List.filter_cons_of_pos hmark, ← marks, read?, read?, ih (h.step c)]
      | false =>
          have hsep : n.separates c = false := by
            rw [Bool.eq_false_iff]
            intro hsep
            rw [(eq_of_separates hsep).2] at hmark
            exact absurd hmark (by decide)
          rw [marks_cons_of_not hmark, read?, hsep, h.step_of_not hmark, ih h]
          rfl

/-- Texts with the same marks are read alike. -/
theorem read?_congr {a b : List Char} (h : marks a = marks b) :
    outside.read? a = outside.read? b := by
  rw [← isValid_outside.read?_marks a, h, isValid_outside.read?_marks]

/-- A text is read without a cut, or up to the first separator and from there on outside. -/
theorem read?_or_separator (n : Nesting) (cs : List Char) :
    n.read? cs = some (n.after cs) ∨
      ∃ part rest, cs = part ++ ';' :: rest ∧ n.read? part = some outside ∧
        n.after cs = outside.after rest := by
  induction cs generalizing n with
  | nil => exact Or.inl rfl
  | cons c cs ih =>
      by_cases hsep : n.separates c = true
      · obtain ⟨rfl, rfl⟩ := eq_of_separates hsep
        exact Or.inr ⟨[], cs, rfl, rfl, rfl⟩
      · have hread (text : List Char) : n.read? (c :: text) = (n.step c).read? text := by
          rw [read?, if_neg hsep]
        have hafter (text : List Char) : n.after (c :: text) = (n.step c).after text := rfl
        rcases ih (n.step c) with hrest | ⟨part, rest, rfl, hpart, hbehind⟩
        · exact Or.inl (by rw [hread, hafter, hrest])
        · exact Or.inr ⟨c :: part, rest, rfl, by rw [hread, hpart], by rw [hafter, hbehind]⟩

end Nesting

open Nesting (outside)

/-! ### Cutting -/

/-- A text that is read without a cut belongs to one part with whatever stands behind it. -/
theorem cut_append {n m : Nesting} {part : List Char} (h : n.read? part = some m)
    (rest : List Char) : cut n (part ++ rest) = (part ++ (cut m rest).1, (cut m rest).2) := by
  induction part generalizing n with
  | nil => cases h; rfl
  | cons c part ih =>
      rw [Nesting.read?] at h
      split at h
      · cases h
      · next hsep => rw [List.cons_append, cut, if_neg hsep, ih h]; rfl

/-- A text that is read without a cut is its only part. -/
theorem split_of_read {part : List Char} {m : Nesting} (h : outside.read? part = some m) :
    split part = [part] := by
  have hcut := cut_append h []
  rw [List.append_nil] at hcut
  simp only [split, hcut, cut, List.append_nil]

/-- **A part in front of a separator is split off.** -/
theorem split_append {part : List Char} (h : outside.read? part = some outside)
    (rest : List Char) : split (part ++ ';' :: rest) = part :: split rest := by
  have hcut := cut_append h (';' :: rest)
  simp only [split, hcut, cut, Nesting.separates_outside, if_true, List.append_nil]

/-- A space in front belongs to the first part. -/
theorem split_space (cs : List Char) :
    split (' ' :: cs) = (' ' :: (cut outside cs).1) :: (cut outside cs).2 := by
  have hspace : outside.read? [' '] = some outside := by decide
  have hcut := cut_append hspace cs
  rw [List.singleton_append, List.singleton_append] at hcut
  rw [split, hcut]

/-- The text behind the last separator. -/
def lastPart (cs : List Char) : List Char := (split cs).getLastD []

/-- A text that is read without a cut is its last part. -/
theorem lastPart_of_read {part : List Char} {m : Nesting} (h : outside.read? part = some m) :
    lastPart part = part := by
  rw [lastPart, split_of_read h, List.getLastD_cons, List.getLastD_nil]

/-- The last part stands behind every separator. -/
theorem lastPart_append {part : List Char} (h : outside.read? part = some outside)
    (rest : List Char) : lastPart (part ++ ';' :: rest) = lastPart rest := by
  rw [lastPart, split_append h, lastPart, List.getLastD_cons]
  rfl

/-- A space in front has no marks to add to the last part. -/
theorem marks_lastPart_space (cs : List Char) :
    marks (lastPart (' ' :: cs)) = marks (lastPart cs) := by
  have hsplit : split cs = (cut outside cs).1 :: (cut outside cs).2 := rfl
  rw [lastPart, lastPart, split_space, hsplit, List.getLastD_cons, List.getLastD_cons]
  cases (cut outside cs).2 with
  | nil => exact marks_cons_of_not (by decide) _
  | cons next rest => rw [List.getLastD_cons, List.getLastD_cons]

/-- The parts of a style before the last one are closed, and the last one is open as the style
is. -/
theorem exists_split (cs : List Char) :
    ∃ closed, split cs = closed ++ [lastPart cs] ∧
      (∀ part ∈ closed, outside.read? part = some outside) ∧
      outside.read? (lastPart cs) = some (outside.after cs) := by
  induction hlength : cs.length using Nat.strongRecOn generalizing cs with
  | ind length ih =>
      rcases outside.read?_or_separator cs with hread | ⟨part, rest, rfl, hpart, hafter⟩
      · refine ⟨[], ?_, by simp, ?_⟩
        · rw [split_of_read hread, lastPart_of_read hread, List.nil_append]
        · rw [lastPart_of_read hread, hread]
      · have hlt : rest.length < length := by
          rw [← hlength, List.length_append, List.length_cons]
          omega
        obtain ⟨closed, hsplit, hclosed, hlast⟩ := ih rest.length hlt rest rfl
        refine ⟨part :: closed, ?_, ?_, ?_⟩
        · rw [split_append hpart, lastPart_append hpart, hsplit, List.cons_append]
        · rw [List.forall_mem_cons]
          exact ⟨hpart, hclosed⟩
        · rw [lastPart_append hpart, hafter, hlast]

/-- **The parts of a closed style are closed.** -/
theorem read?_of_mem_split {cs : List Char} (h : outside.after cs = outside) {part : List Char}
    (hpart : part ∈ split cs) : outside.read? part = some outside := by
  obtain ⟨closed, hsplit, hclosed, hlast⟩ := exists_split cs
  rw [hsplit, List.mem_append, List.mem_singleton] at hpart
  rcases hpart with hpart | rfl
  · exact hclosed part hpart
  · rw [hlast, h]

end TwinRender.Style
