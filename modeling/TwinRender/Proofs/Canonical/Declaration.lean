import TwinRender.Proofs.Canonical.Nesting

/-!
# Reading declarations that were written

A declaration is written with single spaces. When it is read again, its parts are found at the
same places: the property has no colon, the value keeps its single spaces, and what was no priority
mark has not become one. Only a declaration that is a bare property is read differently, since its
colon is not written; the property is then read as text.

## Main definitions

* `Style.HasMark`: a value ends with a priority mark.
* `Style.IsRead`: the parts that reading a declaration comes to.

## Main results

* `Style.collapse_collapse`: text with single spaces keeps its spaces.
* `Style.hasMark_of_collapse`: single spaces make no priority mark.
* `Style.IsRead.readDeclaration_written`: **a written declaration is read back**.
* `Style.exists_isRead`: reading comes to such parts, and keeps the marks of the text.
-/

namespace TwinRender

open Text (isSpace trim trimEnd dense IsTrimmed)

/-- No letter is a space. -/
theorem Text.isSpace_of_isAlpha {c : Char} (h : c.isAlpha = true) : isSpace c = false := by
  have hrange : (65 ≤ c.toNat ∧ c.toNat ≤ 90) ∨ (97 ≤ c.toNat ∧ c.toNat ≤ 122) := by
    simpa [Char.isAlpha, Char.isUpper, Char.isLower, UInt32.le_iff_toNat_le] using h
  simp only [isSpace, Bool.or_eq_false_iff, Bool.and_eq_false_iff, decide_eq_false_iff_not,
    beq_eq_false_iff_ne]
  omega

/-- A text between two trimmed ones does not matter for trimming. -/
theorem Text.IsTrimmed.join {a b : List Char} (ha : IsTrimmed a) (hane : a ≠ []) (hb : IsTrimmed b)
    (hbne : b ≠ []) (middle : List Char) : IsTrimmed (a ++ (middle ++ b)) := by
  refine ⟨fun c hc => ha.first c ?_, fun c hc => hb.last c ?_⟩
  · rwa [List.head?_append_of_ne_nil a hane] at hc
  · rwa [List.getLast?_append_of_ne_nil _ (by simp [hbne]),
      List.getLast?_append_of_ne_nil _ hbne] at hc

namespace Style

/-! ### The first and the last of some characters -/

/-- A text without a character is not split at it. -/
theorem splitAtFirst_of_not_mem {c : Char} {cs : List Char} (h : c ∉ cs) :
    splitAtFirst c cs = none := by
  induction cs with
  | nil => rfl
  | cons d rest ih =>
      rw [List.mem_cons, not_or] at h
      rw [splitAtFirst, if_neg (Ne.symm h.1), ih h.2, Option.map_none]

/-- A text is split at the first of some characters. -/
theorem splitAtFirst_append {c : Char} {before : List Char} (h : c ∉ before)
    (behind : List Char) : splitAtFirst c (before ++ c :: behind) = some (before, behind) := by
  induction before with
  | nil => rw [List.nil_append, splitAtFirst, if_pos rfl]
  | cons d rest ih =>
      rw [List.mem_cons, not_or] at h
      rw [List.cons_append, splitAtFirst, if_neg (Ne.symm h.1), ih h.2, Option.map_some]

/-- A text without a character is not split at the last one. -/
theorem splitAtLast_of_not_mem {c : Char} {cs : List Char} (h : c ∉ cs) :
    splitAtLast c cs = none := by
  induction cs with
  | nil => rfl
  | cons d rest ih =>
      rw [List.mem_cons, not_or] at h
      rw [splitAtLast, ih h.2]
      exact if_neg (Ne.symm h.1)

/-- A text is split at the last of some characters. -/
theorem splitAtLast_append {c : Char} {behind : List Char} (h : c ∉ behind)
    (before : List Char) : splitAtLast c (before ++ c :: behind) = some (before, behind) := by
  induction before with
  | nil =>
      rw [List.nil_append, splitAtLast, splitAtLast_of_not_mem h]
      exact if_pos rfl
  | cons d rest ih => rw [List.cons_append, splitAtLast, ih]

/-- A text with a character has a last one. -/
theorem exists_last_of_mem {c : Char} {cs : List Char} (h : c ∈ cs) :
    ∃ before behind, cs = before ++ c :: behind ∧ c ∉ behind := by
  obtain ⟨behind, before, heq, hnot⟩ := List.eq_append_cons_of_mem (List.mem_reverse.mpr h)
  refine ⟨before.reverse, behind.reverse, ?_, by simpa using hnot⟩
  rw [← List.reverse_reverse cs, heq]
  simp

/-! ### Single spaces -/

/-- Inside of quotes every character stays. -/
theorem collapseFrom_quoted (q : Char) (pending : Bool) (c : Char) (cs : List Char) :
    collapseFrom (some q) pending (c :: cs) =
      c :: collapseFrom (if c = q then none else some q) pending cs := by
  rw [collapseFrom]

/-- A space outside of quotes is pending. -/
theorem collapseFrom_space {c : Char} (hc : isSpace c = true) (pending : Bool) (cs : List Char) :
    collapseFrom none pending (c :: cs) = collapseFrom none true cs := by
  rw [collapseFrom, if_pos hc]

/-- Another character comes behind a single space if one is pending. -/
theorem collapseFrom_letter {c : Char} (hc : isSpace c = false) (pending : Bool)
    (cs : List Char) :
    collapseFrom none pending (c :: cs) = (if pending then [' '] else []) ++
      c :: collapseFrom (if c = '"' ∨ c = '\'' then some c else none) false cs := by
  rw [collapseFrom, if_neg (by simp [hc])]
  cases pending <;> rfl

/-- Only space is changed when runs of space are made single. -/
@[simp] theorem dense_collapseFrom (quote : Option Char) (pending : Bool) (cs : List Char) :
    dense (collapseFrom quote pending cs) = dense cs := by
  have hcons (c : Char) (rest : List Char) : dense (c :: rest) = dense [c] ++ dense rest :=
    Text.dense_append [c] rest
  have hspace {c : Char} (h : isSpace c = true) : dense [c] = [] :=
    Text.dense_spaces (by simpa using h)
  fun_induction collapseFrom quote pending cs with
  | case1 => rfl
  | case2 pending c cs q ih => rw [hcons, ih, ← hcons]
  | case3 pending c cs h ih => rw [ih, hcons c, hspace h, List.nil_append]
  | case4 c cs h quote ih =>
      rw [hcons ' ', hspace (by decide), List.nil_append, hcons, ih, ← hcons]
  | case5 pending c cs h quote hpending ih => rw [hcons, ih, ← hcons]

/-- Only space is changed when a text is written with single spaces. -/
@[simp] theorem dense_collapse (cs : List Char) : dense (collapse cs) = dense cs := by
  rw [collapse, dense_collapseFrom, Text.dense_trim]

/-- What is no space stands in a text when it stands in it with single spaces. -/
theorem mem_collapseFrom {c : Char} (hc : isSpace c = false) {quote : Option Char} {pending : Bool}
    {cs : List Char} : c ∈ collapseFrom quote pending cs ↔ c ∈ cs := by
  have hdense (text : List Char) : c ∈ dense text ↔ c ∈ text := by
    rw [Text.mem_dense, and_iff_left hc]
  rw [← hdense, dense_collapseFrom, hdense]

/-- Single spaces stay as they are. A space is pending only outside of quotes. -/
theorem collapseFrom_collapseFrom (quote : Option Char) (pending : Bool) (cs : List Char)
    (h : pending = true → quote = none) :
    collapseFrom quote false (collapseFrom quote pending cs) = collapseFrom quote pending cs := by
  fun_induction collapseFrom quote pending cs with
  | case1 quote pending => cases quote <;> rfl
  | case2 pending c cs q ih =>
      obtain rfl : pending = false := by
        cases pending with
        | false => rfl
        | true => exact absurd (h rfl) (by simp)
      rw [collapseFrom_quoted, ih (by simp)]
  | case3 pending c cs hc ih => exact ih fun _ => rfl
  | case4 c cs hc quote ih =>
      rw [Bool.not_eq_true] at hc
      rw [collapseFrom_space (by decide), collapseFrom_letter hc, if_pos rfl, ih (by simp)]
      rfl
  | case5 pending c cs hc quote hpending ih =>
      rw [Bool.not_eq_true] at hc
      rw [collapseFrom_letter hc, ih (by simp)]
      rfl

/-- A text that ends with no space ends with the same character when it has single spaces. -/
theorem getLast?_collapseFrom {quote : Option Char} {pending : Bool} {cs : List Char} {z : Char}
    (hlast : cs.getLast? = some z) (hz : isSpace z = false) :
    (collapseFrom quote pending cs).getLast? = some z := by
  -- the last character is the first one, or the last one of the rest
  have hcons {c : Char} {rest out : List Char} (h : (c :: rest).getLast? = some z)
      (hout : rest.getLast? = some z → out.getLast? = some z) (hnil : rest = [] → out = []) :
      (c :: out).getLast? = some z := by
    cases rest with
    | nil => rwa [hnil rfl]
    | cons d rest =>
        rw [List.getLast?_cons_cons] at h
        rw [List.getLast?_cons, hout h, Option.getD_some]
  have hnil {quote : Option Char} {pending : Bool} {rest : List Char} (h : rest = []) :
      collapseFrom quote pending rest = [] := by
    rw [h, collapseFrom]
  fun_induction collapseFrom quote pending cs with
  | case1 => cases hlast
  | case2 pending c cs q ih => exact hcons hlast ih hnil
  | case3 pending c cs hc ih =>
      cases cs with
      | nil =>
          cases hlast
          exact absurd hc (by simpa using hz)
      | cons d rest => exact ih (by rwa [List.getLast?_cons_cons] at hlast)
  | case4 c cs hc quote ih =>
      rw [List.getLast?_cons, hcons hlast ih hnil, Option.getD_some]
  | case5 pending c cs hc quote hpending ih => exact hcons hlast ih hnil

/-- A text with single spaces is trimmed. -/
theorem isTrimmed_collapse (cs : List Char) : IsTrimmed (collapse cs) := by
  have htrimmed := Text.isTrimmed_trim cs
  rw [collapse]
  cases hcs : trim cs with
  | nil => exact IsTrimmed.nil
  | cons c rest =>
      rw [hcs] at htrimmed
      refine ⟨?_, fun z hz => ?_⟩
      · have hfirst : isSpace c = false := htrimmed.first c rfl
        rw [collapseFrom_letter hfirst]
        simpa using hfirst
      · have hlast := List.getLast?_eq_some_getLast (List.cons_ne_nil c rest)
        have hspace := htrimmed.last _ hlast
        rw [getLast?_collapseFrom hlast hspace] at hz
        cases hz
        exact hspace

/-- **Text with single spaces keeps its spaces.** -/
theorem collapse_collapse (cs : List Char) : collapse (collapse cs) = collapse cs := by
  have htrim := (isTrimmed_collapse cs).trim_eq
  rw [collapse, htrim, collapse, collapseFrom_collapseFrom _ _ _ (by simp)]

/-- Space around a text does not matter when it is written with single spaces. -/
theorem collapse_congr {a b : List Char} (h : trim a = trim b) : collapse a = collapse b := by
  rw [collapse, h, collapse]

/-! ### Priority marks -/

/-- A value ends with a priority mark. -/
def HasMark (cs : List Char) : Prop :=
  ∃ before behind, cs = before ++ '!' :: behind ∧ '!' ∉ behind ∧
    isPriority (trim behind) = true

/-- The word of a priority mark has letters only. -/
theorem isAlpha_of_isPriority {w : List Char} (h : isPriority w = true) :
    ∀ c ∈ w, c.isAlpha = true := by
  rw [isPriority, beq_iff_eq] at h
  intro c hc
  have hmem : c.toLower ∈ "important".toList := h ▸ List.mem_map_of_mem hc
  have halpha : "important".toList.all Char.isAlpha = true := by decide +kernel
  rw [← Char.isAlpha_toLower_eq_isAlpha]
  exact List.all_eq_true.mp halpha _ hmem

/-- A value with a mark is split before it. -/
theorem splitPriority_marked {behind : List Char} (hnot : '!' ∉ behind)
    (hmark : isPriority (trim behind) = true) (before : List Char) :
    splitPriority (before ++ '!' :: behind) = (trimEnd before, some ('!' :: trim behind)) := by
  simp only [splitPriority, splitAtLast_append hnot, hmark, if_true]

/-- A value without a mark is not split. -/
theorem splitPriority_unmarked {cs : List Char} (h : ¬ HasMark cs) :
    splitPriority cs = (cs, none) := by
  by_cases hmem : '!' ∈ cs
  · obtain ⟨before, behind, rfl, hnot⟩ := exists_last_of_mem hmem
    have hmark : ¬ isPriority (trim behind) = true := fun hmark =>
      h ⟨before, behind, rfl, hnot, hmark⟩
    simp only [splitPriority, splitAtLast_append hnot, if_neg hmark]
  · simp only [splitPriority, splitAtLast_of_not_mem hmem]

/-- Quotations are in one of the two kinds of quotes. -/
def IsQuotation (quote : Option Char) : Prop := ∀ q, quote = some q → q = '"' ∨ q = '\''

/-- What stands behind a character in a text with single spaces stands behind it in the text, with
single spaces from there on. -/
theorem exists_of_collapseFrom (quote : Option Char) (pending : Bool) (cs : List Char)
    (hquote : IsQuotation quote) (hpending : pending = true → quote = none) {z : Char}
    (hz : isSpace z = false) {before behind : List Char}
    (h : collapseFrom quote pending cs = before ++ z :: behind) :
    ∃ before' behind' quote', cs = before' ++ z :: behind' ∧
      behind = collapseFrom quote' false behind' ∧ IsQuotation quote' := by
  -- a character that is kept is the one in question, or stands before it
  have hkept {c : Char} {rest before : List Char} {next : Option Char} (hnext : IsQuotation next)
      (ih : ∀ {before : List Char}, collapseFrom next false rest = before ++ z :: behind →
        ∃ before' behind' quote', rest = before' ++ z :: behind' ∧
          behind = collapseFrom quote' false behind' ∧ IsQuotation quote')
      (h : c :: collapseFrom next false rest = before ++ z :: behind) :
      ∃ before' behind' quote', c :: rest = before' ++ z :: behind' ∧
        behind = collapseFrom quote' false behind' ∧ IsQuotation quote' := by
    rcases List.cons_eq_append_iff.mp h with ⟨-, heq⟩ | ⟨before, -, heq⟩
    · obtain ⟨rfl, rfl⟩ := List.cons.inj heq
      exact ⟨[], rest, next, rfl, rfl, hnext⟩
    · obtain ⟨before', behind', quote', rfl, hrest⟩ := ih heq
      exact ⟨c :: before', behind', quote', rfl, hrest⟩
  have hopened (c : Char) : IsQuotation (if c = '"' ∨ c = '\'' then some c else none) := by
    intro q hq
    split at hq
    · next hc => exact Option.some.inj hq ▸ hc
    · cases hq
  fun_induction collapseFrom quote pending cs generalizing before with
  | case1 => exact absurd h (by simp)
  | case2 pending c cs q ih =>
      obtain rfl : pending = false := by
        cases pending with
        | false => rfl
        | true => exact absurd (hpending rfl) (by simp)
      have hnext : IsQuotation (if c = q then none else some q) := by
        split
        · exact fun _ hq => by cases hq
        · exact hquote
      exact hkept hnext (fun heq => ih hnext (by simp) heq) h
  | case3 pending c cs hc ih =>
      obtain ⟨before', behind', quote', rfl, hrest⟩ := ih hquote (fun _ => rfl) h
      exact ⟨c :: before', behind', quote', rfl, hrest⟩
  | case4 c cs hc quote ih =>
      rcases List.cons_eq_append_iff.mp h with ⟨-, heq⟩ | ⟨before, -, heq⟩
      · obtain ⟨rfl, -⟩ := List.cons.inj heq
        exact absurd hz (by decide)
      · exact hkept (hopened c) (fun heq => ih (hopened c) (by simp) heq) heq
  | case5 pending c cs hc quote hfalse ih =>
      exact hkept (hopened c) (fun heq => ih (hopened c) (by simp) heq) h

/-- Only space comes to space. -/
theorem isSpace_of_collapseFrom {quote : Option Char} {pending : Bool} {cs : List Char}
    (h : ∀ c ∈ collapseFrom quote pending cs, isSpace c = true) : ∀ c ∈ cs, isSpace c = true := by
  intro c hc
  by_contra hspace
  rw [Bool.not_eq_true] at hspace
  have hmem := h c ((mem_collapseFrom hspace).mpr hc)
  rw [hspace] at hmem
  cases hmem

/-- A pending space comes in front of all else. -/
theorem trim_collapseFrom_pending (pending : Bool) (cs : List Char) :
    trim (collapseFrom none pending cs) = trim (collapseFrom none false cs) := by
  cases cs with
  | nil => rw [collapseFrom, collapseFrom]
  | cons c rest =>
      cases hc : isSpace c with
      | true => rw [collapseFrom_space hc, collapseFrom_space hc]
      | false =>
          rw [collapseFrom_letter hc, collapseFrom_letter hc]
          cases pending with
          | true => exact Text.trim_cons_space (by decide) _
          | false => rfl

/-- Nothing is changed in quotes that do not end. -/
theorem collapseFrom_of_not_mem {q : Char} {cs : List Char} (h : q ∉ cs) :
    collapseFrom (some q) false cs = cs := by
  induction cs with
  | nil => rw [collapseFrom]
  | cons c rest ih =>
      rw [List.mem_cons, not_or] at h
      rw [collapseFrom_quoted, if_neg (Ne.symm h.1), ih h.2]

/-- Where a space is pending, a text with single spaces begins with it. -/
theorem eq_space_of_collapseFrom {c : Char} {cs out : List Char}
    (h : collapseFrom none true cs = c :: out) : c = ' ' := by
  induction cs with
  | nil => rw [collapseFrom] at h; cases h
  | cons d rest ih =>
      cases hd : isSpace d with
      | true => exact ih (by rwa [collapseFrom_space hd] at h)
      | false =>
          rw [collapseFrom_letter hd] at h
          exact (List.cons.inj h).1.symm

/-- A word at the beginning of a text with single spaces is at its beginning before. -/
theorem exists_of_collapseFrom_word {w spaces cs : List Char} (hw : ∀ c ∈ w, c.isAlpha = true)
    (hspaces : ∀ c ∈ spaces, isSpace c = true)
    (h : collapseFrom none false cs = w ++ spaces) :
    ∃ behind, cs = w ++ behind ∧ ∀ c ∈ behind, isSpace c = true := by
  induction w generalizing cs with
  | nil =>
      rw [List.nil_append] at h
      exact ⟨cs, rfl, isSpace_of_collapseFrom (h ▸ hspaces)⟩
  | cons d w ih =>
      rw [List.forall_mem_cons] at hw
      cases cs with
      | nil => rw [collapseFrom] at h; cases h
      | cons c rest =>
          cases hc : isSpace c with
          | true =>
              rw [collapseFrom_space hc] at h
              obtain rfl := eq_space_of_collapseFrom h
              exact absurd hw.1 (by decide)
          | false =>
              rw [collapseFrom_letter hc] at h
              obtain ⟨rfl, hrest⟩ := List.cons.inj h
              have hquote : ¬ (c = '"' ∨ c = '\'') := by
                rintro (rfl | rfl) <;> exact absurd hw.1 (by decide)
              rw [if_neg hquote] at hrest
              obtain ⟨behind, rfl, hbehind⟩ := ih hw.2 hrest
              exact ⟨behind, rfl, hbehind⟩

/-- A text that is a word when it has single spaces is that word, with space around it. -/
theorem trim_of_collapseFrom {quote : Option Char} (hquote : IsQuotation quote) {w cs : List Char}
    (hw : ∀ c ∈ w, c.isAlpha = true) (h : trim (collapseFrom quote false cs) = w) :
    trim cs = w := by
  have hletters : ∀ c ∈ w, isSpace c = false := fun c hc => Text.isSpace_of_isAlpha (hw c hc)
  cases quote with
  | some q =>
      -- the word has no quotes, so that all of it is quoted
      have hq : q ∉ cs := by
        have hmark : isSpace q = false ∧ q.isAlpha = false := by
          rcases hquote q rfl with rfl | rfl <;> exact ⟨by decide, by decide⟩
        intro hmem
        rw [← mem_collapseFrom hmark.1, ← Text.mem_trim hmark.1, h] at hmem
        have halpha := hw q hmem
        rw [hmark.2] at halpha
        cases halpha
      rwa [collapseFrom_of_not_mem hq] at h
  | none =>
      induction cs with
      | nil => rwa [collapseFrom] at h
      | cons c rest ih =>
          cases hc : isSpace c with
          | true =>
              rw [Text.trim_cons_space hc]
              rw [collapseFrom_space hc, trim_collapseFrom_pending] at h
              exact ih h
          | false =>
              obtain ⟨before, behind, hbefore, hbehind, heq, -⟩ :=
                Text.exists_trim (collapseFrom none false (c :: rest))
              rw [h] at heq
              obtain rfl : before = [] := by
                cases before with
                | nil => rfl
                | cons d before =>
                    rw [collapseFrom_letter hc] at heq
                    obtain rfl : c = d := (List.cons.inj heq).1
                    rw [List.forall_mem_cons, hc] at hbefore
                    exact absurd hbefore.1 Bool.false_ne_true
              obtain ⟨spaces, hrest, hspaces⟩ := exists_of_collapseFrom_word hw hbehind heq
              rw [hrest, Text.trim_append_spaces hspaces, (IsTrimmed.of_forall hletters).trim_eq]

/-- **Single spaces make no priority mark.** -/
theorem hasMark_of_collapse {cs : List Char} (h : HasMark (collapse cs)) : HasMark cs := by
  obtain ⟨before, behind, heq, hnot, hmark⟩ := h
  have hletters := isAlpha_of_isPriority hmark
  obtain ⟨before', behind', quote, htrim, rfl, hquote⟩ :=
    exists_of_collapseFrom none false (trim cs) (fun _ hq => by cases hq) (by simp) (by decide) heq
  have hword := trim_of_collapseFrom hquote hletters rfl
  obtain ⟨front, back, -, hback, hcs, -⟩ := Text.exists_trim cs
  -- the space behind the text comes to stand behind the mark
  refine ⟨front ++ before', behind' ++ back, ?_, ?_, ?_⟩
  · rw [hcs, htrim]
    simp
  · rw [List.mem_append, not_or]
    refine ⟨fun hmem => hnot ((mem_collapseFrom (by decide)).mpr hmem), fun hmem => ?_⟩
    exact absurd (hback _ hmem) (by decide)
  · rw [Text.trim_append_spaces hback, hword]
    exact hmark

/-- Space in front makes no priority mark. -/
theorem hasMark_of_spaces {spaces : List Char} (hspaces : ∀ c ∈ spaces, isSpace c = true)
    {cs : List Char} (h : HasMark (spaces ++ cs)) : HasMark cs := by
  induction spaces with
  | nil => exact h
  | cons c spaces ih =>
      rw [List.forall_mem_cons] at hspaces
      obtain ⟨before, behind, heq, hrest⟩ := h
      refine ih hspaces.2 ?_
      rcases List.cons_eq_append_iff.mp heq with ⟨-, hcons⟩ | ⟨before, -, hcons⟩
      · obtain rfl := (List.cons.inj hcons).1
        exact absurd hspaces.1 (by decide)
      · exact ⟨before, behind, hcons, hrest⟩

/-! ### Reading what was written -/

/-- A value with its mark, as it is written. -/
def written (value : List Char) : Option (List Char) → List Char
  | none => value
  | some mark => if value = [] then mark else value ++ ' ' :: mark

/-- A declaration as it is written: a property alone, or with a value. -/
def writtenDeclaration (property written : List Char) : List Char :=
  if written = [] then property else property ++ ':' :: ' ' :: written

/-- The characters of a declaration as it is written. -/
theorem toList_text (property value : List Char) (mark : Option (List Char))
    (h : mark ≠ some []) :
    (Declaration.mk (String.ofList property) (String.ofList value)
      (mark.map String.ofList)).text.toList =
        writtenDeclaration property (written value mark) := by
  cases mark with
  | none =>
      cases value with
      | nil => simp [Declaration.text, written, writtenDeclaration]
      | cons c cs => simp [Declaration.text, written, writtenDeclaration, String.isEmpty_iff]
  | some mark =>
      have hne : mark ≠ [] := fun hnil => h (congrArg some hnil)
      cases value with
      | nil => simp [Declaration.text, written, writtenDeclaration, hne]
      | cons c cs => simp [Declaration.text, written, writtenDeclaration, String.isEmpty_iff]

/-- The parts that reading a declaration comes to. -/
structure IsRead (property value : List Char) (mark : Option (List Char)) : Prop where
  /-- The property ends before the first colon. -/
  colon : ':' ∉ property
  /-- There is no space around the property. -/
  trimmed : IsTrimmed property
  /-- A property with a value is in lower case, unless it is a custom property. -/
  name : written value mark ≠ [] → propertyName property = property
  /-- The value has single spaces. -/
  collapsed : collapse value = value
  /-- The mark has been taken from the value, and is the only one. -/
  marked : (mark = none ∧ ¬ HasMark value) ∨
    ∃ w, mark = some ('!' :: w) ∧ '!' ∉ w ∧ isPriority w = true ∧ IsTrimmed w

namespace IsRead

variable {property value : List Char} {mark : Option (List Char)}

/-- A mark is not empty. -/
theorem mark_ne (h : IsRead property value mark) : mark ≠ some [] := by
  rcases h.marked with ⟨rfl, -⟩ | ⟨w, rfl, -⟩ <;> simp

/-- The value is trimmed. -/
theorem value_trimmed (h : IsRead property value mark) : IsTrimmed value :=
  h.collapsed ▸ isTrimmed_collapse value

/-- A mark is trimmed. -/
theorem mark_trimmed {w : List Char} (hw : IsTrimmed w) : IsTrimmed ('!' :: w) := by
  refine ⟨fun c hc => ?_, fun c hc => ?_⟩
  · cases hc
    decide
  cases w with
  | nil =>
      cases hc
      decide
  | cons d w => exact hw.last c (by rwa [List.getLast?_cons_cons] at hc)

/-- A value with its mark is trimmed. -/
theorem written_trimmed (h : IsRead property value mark) : IsTrimmed (written value mark) := by
  rcases h.marked with ⟨rfl, -⟩ | ⟨w, rfl, -, -, hw⟩
  · exact h.value_trimmed
  · rw [written]
    split
    · exact mark_trimmed hw
    · next hne => exact h.value_trimmed.join hne (mark_trimmed hw) (by simp) [' ']

/-- A written declaration is trimmed. -/
theorem declaration_trimmed (h : IsRead property value mark) :
    IsTrimmed (writtenDeclaration property (written value mark)) := by
  rw [writtenDeclaration]
  split
  · exact h.trimmed
  · next hne =>
      have hcolon : IsTrimmed [':'] :=
        ⟨fun c hc => by cases hc; decide, fun c hc => by cases hc; decide⟩
      have hvalue := hcolon.join (by simp) h.written_trimmed hne [' ']
      by_cases hp : property = []
      · rwa [hp]
      · exact h.trimmed.join hp h.written_trimmed hne [':', ' ']

/-- The value and the mark are found again behind the colon. -/
theorem splitPriority_written (h : IsRead property value mark) :
    ∃ before, splitPriority (' ' :: written value mark) = (before, mark) ∧
      collapse before = value := by
  have hspace (text : List Char) : trim (' ' :: text) = trim text :=
    Text.trim_cons_space (by decide) text
  have hsingle : ∀ c ∈ [' '], isSpace c = true := by
    simpa using (by decide : isSpace ' ' = true)
  rcases h.marked with ⟨rfl, hplain⟩ | ⟨w, rfl, hnot, hmark, hw⟩
  · refine ⟨' ' :: value,
      splitPriority_unmarked fun hmark => hplain (hasMark_of_spaces hsingle hmark), ?_⟩
    rw [collapse_congr (hspace value), h.collapsed]
  · have hsplit := splitPriority_marked hnot (by rwa [hw.trim_eq])
    rw [hw.trim_eq] at hsplit
    rw [written]
    split
    · next hnil => exact ⟨_, hsplit [' '], by rw [hnil]; rfl⟩
    · refine ⟨_, by simpa using hsplit (' ' :: (value ++ [' '])), ?_⟩
      have htrim : trim (trimEnd (' ' :: (value ++ [' ']))) = trim value := by
        rw [Text.trim_trimEnd, hspace, Text.trim_append_spaces hsingle]
      rw [collapse_congr htrim, h.collapsed]

/-- **A written declaration is read back.** -/
theorem readDeclaration_written (h : IsRead property value mark) (hne : written value mark ≠ []) :
    readDeclaration (writtenDeclaration property (written value mark)) =
      ⟨String.ofList property, String.ofList value, mark.map String.ofList⟩ := by
  obtain ⟨before, hsplit, hcollapse⟩ := h.splitPriority_written
  simp only [writtenDeclaration, if_neg hne, readDeclaration, splitAtFirst_append h.colon, hsplit,
    hcollapse, h.trimmed.trim_eq, h.name hne]

/-- A bare property is read as text. -/
theorem readDeclaration_bare (h : IsRead property value mark) (hne : written value mark = []) :
    readDeclaration (writtenDeclaration property (written value mark)) =
      ⟨String.ofList (collapse property), "", none⟩ := by
  simp only [writtenDeclaration, if_pos hne, readDeclaration, splitAtFirst_of_not_mem h.colon]

end IsRead

/-! ### Names of properties -/

/-- Lowering changes letters only. -/
theorem toLower_eq_iff {c d : Char} (hd : d.isAlpha = false) : c.toLower = d ↔ c = d := by
  by_cases hupper : c.isUpper = true
  · have halpha : c.isAlpha = true := by rw [Char.isAlpha, hupper, Bool.true_or]
    have hne {e : Char} (he : e.isAlpha = true) : e ≠ d := by
      rintro rfl
      rw [hd] at he
      cases he
    have hlower : c.toLower.isAlpha = true := by rw [Char.isAlpha_toLower_eq_isAlpha, halpha]
    exact iff_of_false (hne hlower) (hne halpha)
  · rw [Char.toLower_eq_of_not_isUpper hupper]

/-- A property keeps its case, or is lowered. -/
theorem propertyName_cases (cs : List Char) :
    propertyName cs = cs ∨
      propertyName cs = cs.map Char.toLower ∧
        propertyName (cs.map Char.toLower) = cs.map Char.toLower := by
  unfold propertyName
  split
  · exact Or.inl rfl
  · next hnot =>
      refine Or.inr ⟨rfl, ?_⟩
      split
      · rfl
      · rw [List.map_map]
        exact List.map_congr_left fun c _ => Char.toLower_toLower_eq_toLower c

/-- The name of a property is its own name. -/
theorem propertyName_propertyName (cs : List Char) :
    propertyName (propertyName cs) = propertyName cs := by
  rcases propertyName_cases cs with h | ⟨h, hlower⟩
  · rw [h, h]
  · rw [h, hlower]

/-- The name of a property is trimmed if the property is. -/
theorem isTrimmed_propertyName {cs : List Char} (h : IsTrimmed cs) :
    IsTrimmed (propertyName cs) := by
  have hspace (c : Char) (hc : isSpace c = false) : isSpace c.toLower = false := by
    by_cases hupper : c.isUpper = true
    · refine Text.isSpace_of_isAlpha ?_
      rw [Char.isAlpha_toLower_eq_isAlpha, Char.isAlpha, hupper, Bool.true_or]
    · rwa [Char.toLower_eq_of_not_isUpper hupper]
  rcases propertyName_cases cs with hname | ⟨hname, -⟩
  · rwa [hname]
  · rw [hname]
    refine ⟨fun c hc => ?_, fun c hc => ?_⟩
    · rw [List.head?_map] at hc
      obtain ⟨d, hd, rfl⟩ := Option.map_eq_some_iff.mp hc
      exact hspace d (h.first d hd)
    · rw [List.getLast?_map] at hc
      obtain ⟨d, hd, rfl⟩ := Option.map_eq_some_iff.mp hc
      exact hspace d (h.last d hd)

/-- The name of a property has the marks of the property. -/
theorem marks_propertyName (cs : List Char) : marks (propertyName cs) = marks cs := by
  rcases propertyName_cases cs with h | ⟨h, -⟩
  · rw [h]
  · rw [h, marks_map_toLower]

/-- The name of a property without a colon has no colon. -/
theorem colon_not_mem_propertyName {cs : List Char} (h : ':' ∉ cs) : ':' ∉ propertyName cs := by
  rcases propertyName_cases cs with hname | ⟨hname, -⟩
  · rwa [hname]
  · rw [hname, List.mem_map]
    rintro ⟨c, hc, hcolon⟩
    exact h ((toLower_eq_iff (by decide)).mp hcolon ▸ hc)

/-! ### What reading comes to -/

/-- The marks of a declaration are the ones of its parts. -/
theorem marks_writtenDeclaration (property value : List Char) :
    marks (writtenDeclaration property value) = marks property ++ marks value := by
  rw [writtenDeclaration]
  split
  · next hnil => rw [hnil]; exact (List.append_nil _).symm
  · rw [marks_append, marks_cons_of_not (by decide), marks_cons_of_not (by decide)]

/-- Reading a value comes to single spaces and at most one mark, and keeps the marks of the text. -/
theorem exists_splitPriority (cs : List Char) :
    ∃ value mark, splitPriority cs = (value, mark) ∧
      marks (written (collapse value) mark) = marks cs ∧
      ((mark = none ∧ ¬ HasMark (collapse value)) ∨
        ∃ w, mark = some ('!' :: w) ∧ '!' ∉ w ∧ isPriority w = true ∧ IsTrimmed w) := by
  by_cases hmark : HasMark cs
  · obtain ⟨before, behind, rfl, hnot, hword⟩ := hmark
    have hdense : dense (written (collapse (trimEnd before)) (some ('!' :: trim behind))) =
        dense (before ++ '!' :: behind) := by
      have hcons (text : List Char) : dense ('!' :: text) = '!' :: dense text := rfl
      rw [written]
      split
      · next hnil =>
          have hempty := congrArg dense hnil
          rw [dense_collapse, Text.dense_trimEnd] at hempty
          rw [Text.dense_append, hempty, hcons, hcons, Text.dense_trim]
          rfl
      · have hspace (text : List Char) : dense (' ' :: text) = dense text := rfl
        rw [Text.dense_append, hspace, dense_collapse, Text.dense_trimEnd, Text.dense_append, hcons,
          hcons, Text.dense_trim]
    refine ⟨_, _, splitPriority_marked hnot hword before, marks_congr hdense, Or.inr ⟨_, rfl, ?_,
      hword, Text.isTrimmed_trim behind⟩⟩
    exact fun hmem => hnot ((Text.mem_trim (by decide)).mp hmem)
  · refine ⟨cs, none, splitPriority_unmarked hmark, marks_congr (dense_collapse cs),
      Or.inl ⟨rfl, fun h => hmark (hasMark_of_collapse h)⟩⟩

/-- **Reading comes to parts that are read back**, and keeps the marks of the text. -/
theorem exists_isRead (cs : List Char) :
    ∃ property value mark,
      readDeclaration cs =
        ⟨String.ofList property, String.ofList value, mark.map String.ofList⟩ ∧
      IsRead property value mark ∧
      marks (writtenDeclaration property (written value mark)) = marks cs := by
  by_cases hmem : ':' ∈ cs
  · obtain ⟨before, behind, rfl, hnot⟩ := List.eq_append_cons_of_mem hmem
    obtain ⟨value, mark, hsplit, hmarks, hmark⟩ := exists_splitPriority behind
    have htrim : ':' ∉ trim before := fun hin => hnot ((Text.mem_trim (by decide)).mp hin)
    refine ⟨propertyName (trim before), collapse value, mark, ?_, ?_, ?_⟩
    · simp only [readDeclaration, splitAtFirst_append hnot, hsplit]
    · exact ⟨colon_not_mem_propertyName htrim, isTrimmed_propertyName (Text.isTrimmed_trim before),
        fun _ => propertyName_propertyName _, collapse_collapse value, hmark⟩
    · rw [marks_writtenDeclaration, hmarks, marks_propertyName, marks_append,
        marks_cons_of_not (by decide), marks_congr (Text.dense_trim before)]
  · refine ⟨collapse cs, [], none, ?_, ?_, ?_⟩
    · simp only [readDeclaration, splitAtFirst_of_not_mem hmem]
      rfl
    · refine ⟨fun hin => ?_, isTrimmed_collapse cs, fun hne => absurd rfl hne, rfl,
        Or.inl ⟨rfl, ?_⟩⟩
      · rw [collapse, mem_collapseFrom (by decide), Text.mem_trim (by decide)] at hin
        exact hmem hin
      · rintro ⟨before, behind, heq, -⟩
        exact absurd heq (by simp)
    · rw [marks_writtenDeclaration]
      exact (List.append_nil _).trans (marks_congr (dense_collapse cs))

end Style

end TwinRender
