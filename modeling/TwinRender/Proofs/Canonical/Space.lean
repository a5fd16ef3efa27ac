import Mathlib
import TwinRender.Text.Space

/-!
# Space around and between words

Values are compared without the space around them, and lists of words without the space between
them. Both forms are fixed points: the space that has been taken away is not there a second time.

## Main definitions

* `Text.IsTrimmed`: a text that neither begins nor ends with space.
* `Text.dense`: a text without any space.

## Main results

* `Text.trim_surrounded`: trimming takes away the space around a trimmed text, and nothing else.
* `Text.trimmed_trimmed`: a trimmed string is its own trimmed form.
* `Text.words_intercalate`: words that are written with single spaces are read back.
-/

namespace TwinRender.Text

/-! ### Trimming -/

/-- A text that neither begins nor ends with space. -/
structure IsTrimmed (cs : List Char) : Prop where
  /-- The first character is no space. -/
  first : ∀ c ∈ cs.head?, isSpace c = false
  /-- The last character is no space. -/
  last : ∀ c ∈ cs.getLast?, isSpace c = false

instance (cs : List Char) : Decidable (IsTrimmed cs) :=
  decidable_of_iff
    (cs.head?.any isSpace = false ∧ cs.getLast?.any isSpace = false)
    ⟨fun h => ⟨by simpa [Option.any_eq_false] using h.1, by simpa [Option.any_eq_false] using h.2⟩,
      fun h => ⟨by simpa [Option.any_eq_false] using h.first,
        by simpa [Option.any_eq_false] using h.last⟩⟩

/-- No text is trimmed. -/
theorem IsTrimmed.nil : IsTrimmed [] := by
  constructor <;> simp

/-- A text without any space is trimmed. -/
theorem IsTrimmed.of_forall {cs : List Char} (h : ∀ c ∈ cs, isSpace c = false) : IsTrimmed cs :=
  ⟨fun c hc => h c (List.mem_of_mem_head? hc), fun c hc => h c (List.mem_of_mem_getLast? hc)⟩

/-- Spaces in front of a text are dropped with the ones that the text begins with. -/
theorem trimStart_spaces {before : List Char} (h : ∀ c ∈ before, isSpace c = true)
    (cs : List Char) : trimStart (before ++ cs) = trimStart cs := by
  have hnil : before.dropWhile isSpace = [] := List.dropWhile_eq_nil_iff.mpr h
  rw [trimStart, trimStart, List.dropWhile_append, hnil]
  rfl

/-- Nothing is dropped from a text that does not begin with space. -/
theorem trimStart_eq_self {cs : List Char} (h : ∀ c ∈ cs.head?, isSpace c = false) :
    trimStart cs = cs := by
  cases cs with
  | nil => rfl
  | cons c rest => rw [trimStart, List.dropWhile_cons_of_neg (by simp [h c rfl])]

/-- Trimming at the end is trimming at the beginning, read backwards. -/
theorem trimEnd_eq_reverse (cs : List Char) : trimEnd cs = (trimStart cs.reverse).reverse := rfl

/-- Spaces behind a text are dropped with the ones that the text ends with. -/
theorem trimEnd_spaces {behind : List Char} (h : ∀ c ∈ behind, isSpace c = true)
    (cs : List Char) : trimEnd (cs ++ behind) = trimEnd cs := by
  rw [trimEnd_eq_reverse, List.reverse_append, trimStart_spaces (by simpa using h),
    ← trimEnd_eq_reverse]

/-- Nothing is dropped from a text that does not end with space. -/
theorem trimEnd_eq_self {cs : List Char} (h : ∀ c ∈ cs.getLast?, isSpace c = false) :
    trimEnd cs = cs := by
  rw [trimEnd_eq_reverse, trimStart_eq_self (by simpa using h), List.reverse_reverse]

/-- What is dropped in front is space, and what is left does not begin with space. -/
theorem exists_trimStart (cs : List Char) :
    ∃ before, (∀ c ∈ before, isSpace c = true) ∧ cs = before ++ trimStart cs ∧
      ∀ c ∈ (trimStart cs).head?, isSpace c = false := by
  refine ⟨cs.takeWhile isSpace, fun c hc => List.mem_takeWhile_imp hc,
    (List.takeWhile_append_dropWhile).symm, fun c hc => ?_⟩
  have hne : cs.dropWhile isSpace ≠ [] := by
    intro hnil
    rw [trimStart, hnil] at hc
    cases hc
  rw [trimStart, List.head?_eq_some_head hne] at hc
  cases hc
  exact List.head_dropWhile_not isSpace hne

/-- What is dropped behind is space, and what is left does not end with space. -/
theorem exists_trimEnd (cs : List Char) :
    ∃ behind, (∀ c ∈ behind, isSpace c = true) ∧ cs = trimEnd cs ++ behind ∧
      ∀ c ∈ (trimEnd cs).getLast?, isSpace c = false := by
  obtain ⟨before, hspaces, heq, hfirst⟩ := exists_trimStart cs.reverse
  refine ⟨before.reverse, by simpa using hspaces, ?_, ?_⟩
  · rw [trimEnd_eq_reverse, ← List.reverse_append, ← heq, List.reverse_reverse]
  · rw [trimEnd_eq_reverse, List.getLast?_reverse]
    exact hfirst

/-- A text is its trimmed form with space around it. -/
theorem exists_trim (cs : List Char) :
    ∃ before behind, (∀ c ∈ before, isSpace c = true) ∧ (∀ c ∈ behind, isSpace c = true) ∧
      cs = before ++ (trim cs ++ behind) ∧ IsTrimmed (trim cs) := by
  obtain ⟨before, hbefore, hstart, hfirst⟩ := exists_trimStart cs
  obtain ⟨behind, hbehind, hend, hlast⟩ := exists_trimEnd (trimStart cs)
  refine ⟨before, behind, hbefore, hbehind, ?_, ⟨fun c hc => ?_, hlast⟩⟩
  · rw [trim, ← hend]
    exact hstart
  · refine hfirst c ?_
    rw [hend]
    exact List.mem_head?_append_of_mem_head? hc

/-- A trimmed form is trimmed. -/
theorem isTrimmed_trim (cs : List Char) : IsTrimmed (trim cs) := by
  obtain ⟨_, _, -, -, -, htrimmed⟩ := exists_trim cs
  exact htrimmed

/-- **Trimming takes away the space around a trimmed text**, and nothing else. -/
theorem trim_surrounded {before cs behind : List Char} (hbefore : ∀ c ∈ before, isSpace c = true)
    (hbehind : ∀ c ∈ behind, isSpace c = true) (h : IsTrimmed cs) :
    trim (before ++ (cs ++ behind)) = cs := by
  rw [trim, trimStart_spaces hbefore]
  cases cs with
  | nil =>
      have hnil : trimStart behind = [] := List.dropWhile_eq_nil_iff.mpr hbehind
      rw [List.nil_append, hnil]
      rfl
  | cons c rest =>
      have hfirst : ∀ d ∈ ((c :: rest) ++ behind).head?, isSpace d = false := h.first
      rw [trimStart_eq_self hfirst, trimEnd_spaces hbehind, trimEnd_eq_self h.last]

/-- Nothing is taken from a trimmed text. -/
theorem IsTrimmed.trim_eq {cs : List Char} (h : IsTrimmed cs) : trim cs = cs := by
  have hspace : ∀ c ∈ ([] : List Char), isSpace c = true := fun _ hc => by cases hc
  have htrim := trim_surrounded hspace hspace h
  rwa [List.nil_append, List.append_nil] at htrim

/-- Spaces in front of a text do not matter for the trimmed form. -/
theorem trim_spaces_append {before : List Char} (h : ∀ c ∈ before, isSpace c = true)
    (cs : List Char) : trim (before ++ cs) = trim cs := by
  rw [trim, trim, trimStart_spaces h]

/-- A space in front does not matter for the trimmed form. -/
theorem trim_cons_space {c : Char} (hc : isSpace c = true) (cs : List Char) :
    trim (c :: cs) = trim cs :=
  @trim_spaces_append [c] (by simpa using hc) cs

/-- Spaces behind a text do not matter for the trimmed form. -/
theorem trim_append_spaces {behind : List Char} (h : ∀ c ∈ behind, isSpace c = true)
    (cs : List Char) : trim (cs ++ behind) = trim cs := by
  obtain ⟨before, after, hbefore, hafter, heq, htrimmed⟩ := exists_trim cs
  have hspaces : ∀ c ∈ after ++ behind, isSpace c = true := by
    rw [List.forall_mem_append]
    exact ⟨hafter, h⟩
  conv_lhs => rw [heq]
  rw [List.append_assoc, List.append_assoc, trim_surrounded hbefore hspaces htrimmed]

/-- Trimming at the end comes before trimming on both sides. -/
theorem trim_trimEnd (cs : List Char) : trim (trimEnd cs) = trim cs := by
  obtain ⟨behind, hbehind, heq, -⟩ := exists_trimEnd cs
  conv_rhs => rw [heq]
  rw [trim_append_spaces hbehind]

/-- **A trimmed string is its own trimmed form.** -/
theorem trimmed_trimmed (s : String) : trimmed (trimmed s) = trimmed s := by
  rw [trimmed, trimmed, String.toList_ofList, (isTrimmed_trim s.toList).trim_eq]

/-! ### Text without space -/

/-- A text without any space. -/
def dense (cs : List Char) : List Char := cs.filter fun c => !isSpace c

/-- Texts are dense part by part. -/
@[simp] theorem dense_append (a b : List Char) : dense (a ++ b) = dense a ++ dense b :=
  List.filter_append ..

/-- Space leaves nothing. -/
theorem dense_spaces {cs : List Char} (h : ∀ c ∈ cs, isSpace c = true) : dense cs = [] := by
  rw [dense, List.filter_eq_nil_iff]
  intro c hc
  simp [h c hc]

/-- Trimming takes away space only. -/
@[simp] theorem dense_trim (cs : List Char) : dense (trim cs) = dense cs := by
  obtain ⟨before, behind, hbefore, hbehind, heq, -⟩ := exists_trim cs
  conv_rhs => rw [heq]
  rw [dense_append, dense_append, dense_spaces hbefore, dense_spaces hbehind, List.nil_append,
    List.append_nil]

/-- Trimming at the end takes away space only. -/
@[simp] theorem dense_trimEnd (cs : List Char) : dense (trimEnd cs) = dense cs := by
  obtain ⟨behind, hbehind, heq, -⟩ := exists_trimEnd cs
  conv_rhs => rw [heq]
  rw [dense_append, dense_spaces hbehind, List.append_nil]

/-- What is no space is in a text when it is in its dense form. -/
theorem mem_dense {c : Char} {cs : List Char} :
    c ∈ dense cs ↔ c ∈ cs ∧ isSpace c = false := by
  rw [dense, List.mem_filter, Bool.not_eq_true']

/-- What is no space stays when a text is trimmed. -/
theorem mem_trim {c : Char} (hc : isSpace c = false) {cs : List Char} : c ∈ trim cs ↔ c ∈ cs := by
  have hdense (text : List Char) : c ∈ dense text ↔ c ∈ text := by rw [mem_dense, and_iff_left hc]
  rw [← hdense, dense_trim, hdense]

/-! ### Words -/

/-- The letters of a word go to the current word. -/
theorem wordsFrom_append {w : List Char} (hw : ∀ c ∈ w, isSpace c = false)
    (word cs : List Char) : wordsFrom word (w ++ cs) = wordsFrom (w.reverse ++ word) cs := by
  induction w generalizing word with
  | nil => rfl
  | cons c rest ih =>
      rw [List.forall_mem_cons] at hw
      rw [List.cons_append, wordsFrom, if_neg (by simp [hw.1]), ih hw.2, List.reverse_cons,
        List.append_assoc, List.singleton_append]

/-- Words have letters, none of which is a space. -/
theorem wordsFrom_isWord {word cs : List Char} (hword : ∀ c ∈ word, isSpace c = false) :
    ∀ w ∈ wordsFrom word cs, w ≠ [] ∧ ∀ c ∈ w, isSpace c = false := by
  induction cs generalizing word with
  | nil =>
      rw [wordsFrom]
      split
      · simp
      · next hne => simpa using ⟨by simpa using hne, hword⟩
  | cons c rest ih =>
      rw [wordsFrom]
      split
      · have hrest : ∀ w ∈ wordsFrom [] rest, w ≠ [] ∧ ∀ c ∈ w, isSpace c = false := ih (by simp)
        split
        · exact hrest
        · next hne =>
            rw [List.forall_mem_cons]
            exact ⟨by simpa using ⟨by simpa using hne, hword⟩, hrest⟩
      · next hspace => exact ih (by simpa using ⟨by simpa using hspace, hword⟩)

/-- **Words that are written with single spaces are read back.** -/
theorem words_intercalate {ws : List (List Char)}
    (h : ∀ w ∈ ws, w ≠ [] ∧ ∀ c ∈ w, isSpace c = false) :
    words ([' '].intercalate ws) = ws := by
  induction ws with
  | nil => rfl
  | cons w rest ih =>
      rw [List.forall_mem_cons] at h
      obtain ⟨⟨hne, hletters⟩, hrest⟩ := h
      cases rest with
      | nil =>
          have hword := wordsFrom_append hletters [] []
          simpa [words, wordsFrom, hne] using hword
      | cons next rest =>
          have hword : words ([' '].intercalate (w :: next :: rest)) =
              w :: words ([' '].intercalate (next :: rest)) := by
            rw [List.intercalate_cons_cons, words, List.append_assoc, wordsFrom_append hletters,
              List.singleton_append, wordsFrom, if_pos (by decide)]
            simp [hne, words]
          rw [hword, ih hrest]

end TwinRender.Text
