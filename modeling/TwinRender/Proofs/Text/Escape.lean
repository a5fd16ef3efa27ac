import Mathlib.Data.List.Basic
import Mathlib.Logic.Function.Basic
import TwinRender.Text.Rewriting

/-!
# Escaped text

Escaped text is read back in one way. A reference begins with an ampersand and holds no other
character that is replaced, so where an ampersand stands in escaped text a reference begins, and it
is the one that was written there: no reference is put together from two of them, or from one and
the text behind it.

A text is only rewritten if one of its bytes asks for it, which is decided for each text on its own.
The bytes of a character that is not replaced are never those of one that is, so what is handed on
is what rewriting would have given, and the two ways cannot be told from each other.

## Main definitions

* `Text.references`: the references that are written.
* `Text.IsInert`: a text in which nothing is taken for markup.

## Main results

* `Text.exists_of_escapeChars_eq`: an ampersand begins the reference that was written there.
* `Text.unescapeChars_escapeChars`, `Text.escapeChars_injective`: escaped text determines the text.
* `Text.any_isMarkByte`: the bytes of a text show whether there is something to replace.
* `Text.text_rewrite`: what is handed on is what rewriting would have given.
* `Text.rewrite_reversible`: **rewriting can be undone, and leaves nothing that is taken for
  markup**.
-/

namespace TwinRender.Text

variable {c : Char} {cs : List Char}

/-! ### References -/

/-- The references that are written, one for each character that is replaced. -/
def references : List String := ["&amp;", "&lt;", "&gt;", "&quot;", "&#x27;"]

/-- A character that is replaced has its reference. -/
theorem exists_reference (h : c ∈ marks) : ∃ r ∈ references, escapeChar c = r.toList := by
  simp only [marks, List.mem_cons, List.not_mem_nil, or_false] at h
  rcases h with rfl | rfl | rfl | rfl | rfl
  · exact ⟨"&amp;", by simp [references], by simp [escapeChar]⟩
  · exact ⟨"&lt;", by simp [references], by simp [escapeChar]⟩
  · exact ⟨"&gt;", by simp [references], by simp [escapeChar]⟩
  · exact ⟨"&quot;", by simp [references], by simp [escapeChar]⟩
  · exact ⟨"&#x27;", by simp [references], by simp [escapeChar]⟩

/-- A reference begins with an ampersand, and no other character of it is one that is replaced. -/
theorem escapeChar_of_mem (h : c ∈ marks) :
    ∃ name, escapeChar c = '&' :: name ∧ ∀ d ∈ name, d ∉ marks := by
  simp only [marks, List.mem_cons, List.not_mem_nil, or_false] at h
  rcases h with rfl | rfl | rfl | rfl | rfl <;> exact ⟨_, rfl, by simp [marks]⟩

/-- Every other character stays. -/
theorem escapeChar_of_not_mem (h : c ∉ marks) : escapeChar c = [c] := by
  simp only [marks, List.mem_cons, List.not_mem_nil, or_false, not_or] at h
  obtain ⟨hamp, hlt, hgt, hquote, hapostrophe⟩ := h
  rw [escapeChar, if_neg hamp, if_neg hlt, if_neg hgt, if_neg hquote, if_neg hapostrophe]

/-- A text without characters to replace is its own escaped form. -/
theorem escapeChars_eq_self (h : ∀ c ∈ cs, c ∉ marks) : escapeChars cs = cs := by
  induction cs with
  | nil => rfl
  | cons c cs ih =>
      obtain ⟨hc, hcs⟩ := List.forall_mem_cons.mp h
      rw [escapeChars_cons, escapeChar_of_not_mem hc, ih hcs, List.singleton_append]

/-- Of the characters that are replaced, only the ampersand stands in escaped text. -/
theorem eq_ampersand_or_of_mem_escapeChars (h : c ∈ escapeChars cs) : c = '&' ∨ c ∉ marks := by
  obtain ⟨d, -, hc⟩ := List.mem_flatMap.mp h
  by_cases hd : d ∈ marks
  · obtain ⟨name, hreference, hname⟩ := escapeChar_of_mem hd
    rw [hreference] at hc
    rcases List.mem_cons.mp hc with rfl | hc
    · exact Or.inl rfl
    · exact Or.inr (hname c hc)
  · rw [escapeChar_of_not_mem hd, List.mem_singleton] at hc
    exact Or.inr (hc ▸ hd)

/-- No mark of markup stands in escaped text. -/
theorem not_mark_of_mem_escapeChars (h : c ∈ escapeChars cs) : c ≠ '<' ∧ c ≠ '>' ∧ c ≠ '"' := by
  rcases eq_ampersand_or_of_mem_escapeChars h with rfl | hc
  · decide
  · simp only [marks, List.mem_cons, not_or] at hc
    exact ⟨hc.2.1, hc.2.2.1, hc.2.2.2.1⟩

/-- Within what is written for a character, an ampersand is the first of a reference. -/
theorem escapeChar_eq_append {before behind : List Char}
    (h : escapeChar c = before ++ '&' :: behind) : c ∈ marks ∧ before = [] := by
  by_cases hc : c ∈ marks
  · refine ⟨hc, ?_⟩
    obtain ⟨name, hreference, hname⟩ := escapeChar_of_mem hc
    rw [hreference] at h
    cases before with
    | nil => rfl
    | cons d before =>
        obtain ⟨-, hrest⟩ := List.cons.inj h
        have hmem : '&' ∈ name := hrest ▸ List.mem_append_right _ List.mem_cons_self
        exact absurd (by decide) (hname '&' hmem)
  · rw [escapeChar_of_not_mem hc] at h
    have hmem : '&' ∈ [c] := h ▸ List.mem_append_right _ List.mem_cons_self
    rw [List.mem_singleton] at hmem
    exact absurd (hmem ▸ by decide) hc

/-- **Where an ampersand stands in escaped text, a reference begins**: the one that was written for
the character at this place of the text. -/
theorem exists_of_escapeChars_eq {before behind : List Char}
    (h : escapeChars cs = before ++ '&' :: behind) :
    ∃ first c rest, cs = first ++ c :: rest ∧ c ∈ marks ∧ before = escapeChars first ∧
      '&' :: behind = escapeChar c ++ escapeChars rest := by
  induction cs generalizing before with
  | nil => simp at h
  | cons d cs ih =>
      -- the ampersand stands behind what is written for the first character, or within it
      have hbehind {more : List Char} (hbefore : before = escapeChar d ++ more)
          (hmore : escapeChars cs = more ++ '&' :: behind) :
          ∃ first c rest, d :: cs = first ++ c :: rest ∧ c ∈ marks ∧
            before = escapeChars first ∧ '&' :: behind = escapeChar c ++ escapeChars rest := by
        obtain ⟨first, c, rest, rfl, hc, rfl, hrest⟩ := ih hmore
        exact ⟨d :: first, c, rest, rfl, hc, by rw [hbefore, escapeChars_cons], hrest⟩
      rw [escapeChars_cons] at h
      rcases List.append_eq_append_iff.mp h with ⟨more, hbefore, hmore⟩ | ⟨part, hpart, hrest⟩
      · exact hbehind hbefore hmore
      · cases part with
        | nil =>
            rw [List.append_nil] at hpart
            exact @hbehind [] (by rw [hpart, List.append_nil]) hrest.symm
        | cons e part =>
            obtain ⟨rfl, -⟩ := List.cons.inj hrest
            obtain ⟨hd, rfl⟩ := escapeChar_eq_append hpart
            exact ⟨[], d, cs, rfl, hd, rfl, by rw [hpart]; exact hrest⟩

/-! ### Reading back -/

/-- A character that begins no reference is read as itself. -/
theorem unescapeChars_cons (h : c ≠ '&') : unescapeChars (c :: cs) = c :: unescapeChars cs := by
  conv_lhs => unfold unescapeChars
  split <;> simp_all

/-- What was written for a character is read as the character, whatever stands behind it. -/
theorem unescapeChars_escapeChar_append (c : Char) (cs : List Char) :
    unescapeChars (escapeChar c ++ cs) = c :: unescapeChars cs := by
  by_cases h : c ∈ marks
  · simp only [marks, List.mem_cons, List.not_mem_nil, or_false] at h
    rcases h with rfl | rfl | rfl | rfl | rfl <;> rfl
  · rw [escapeChar_of_not_mem h, List.singleton_append]
    exact unescapeChars_cons fun heq => h (heq ▸ by decide)

/-- Reading escaped text back gives the text. -/
theorem unescapeChars_escapeChars (cs : List Char) : unescapeChars (escapeChars cs) = cs := by
  induction cs with
  | nil => rfl
  | cons c cs ih => rw [escapeChars_cons, unescapeChars_escapeChar_append, ih]

/-- **Escaped text determines the text.** -/
theorem escapeChars_injective : Function.Injective escapeChars :=
  Function.LeftInverse.injective unescapeChars_escapeChars

/-- Escaped text is empty when the text is. -/
theorem escapeChars_eq_nil_iff : escapeChars cs = [] ↔ cs = [] :=
  @Function.Injective.eq_iff _ _ _ escapeChars_injective cs []

/-- A line feed begins escaped text when it begins the text. -/
theorem head?_escapeChars_eq_newline_iff :
    (escapeChars cs).head? = some '\n' ↔ cs.head? = some '\n' := by
  cases cs with
  | nil => rfl
  | cons c cs =>
      rw [escapeChars_cons, List.head?_cons]
      by_cases h : c ∈ marks
      · obtain ⟨name, hreference, -⟩ := escapeChar_of_mem h
        rw [hreference, List.cons_append, List.head?_cons]
        have hne : c ≠ '\n' := fun heq => absurd (heq ▸ h) (by decide)
        simp [hne]
      · rw [escapeChar_of_not_mem h]
        rfl

/-! ### Bytes -/

/-- A character below 128 is stored as one byte, its number. -/
theorem utf8EncodeChar_of_lt (h : c.toNat < 128) : String.utf8EncodeChar c = [c.toUInt8] := by
  have hsize : c.utf8Size = 1 := by
    rw [Char.utf8Size_eq_one_iff, UInt32.le_iff_toNat_le]
    exact Nat.le_of_lt_succ h
  rw [String.utf8EncodeChar_eq_singleton hsize, Char.toUInt8_val]

/-- The bytes that any other character is stored as are numbers from 128 on. -/
theorem le_of_mem_utf8EncodeChar (h : 128 ≤ c.toNat) {b : UInt8}
    (hb : b ∈ String.utf8EncodeChar c) : 128 ≤ b.toNat := by
  have hlong : ¬ c.val.toNat ≤ 0x7f := Nat.not_le_of_lt h
  rw [String.utf8EncodeChar, if_neg hlong] at hb
  split at hb
  · simp only [List.mem_cons, List.not_mem_nil, or_false] at hb
    rcases hb with rfl | rfl <;> rw [UInt8.toNat_ofNat'] <;> omega
  split at hb
  · simp only [List.mem_cons, List.not_mem_nil, or_false] at hb
    rcases hb with rfl | rfl | rfl <;> rw [UInt8.toNat_ofNat'] <;> omega
  · simp only [List.mem_cons, List.not_mem_nil, or_false] at hb
    rcases hb with rfl | rfl | rfl | rfl <;> rw [UInt8.toNat_ofNat'] <;> omega

/-- A byte that is a character by itself stands only in what this character is stored as. -/
theorem toUInt8_mem_utf8EncodeChar_iff {m : Char} (hm : m.toNat < 128) (c : Char) :
    m.toUInt8 ∈ String.utf8EncodeChar c ↔ m = c := by
  have hbyte {d : Char} (hd : d.toNat < 128) : d.toUInt8.toNat = d.toNat := by
    have hmod : d.toUInt8.toNat = d.toNat % 256 := rfl
    omega
  constructor
  · intro h
    by_cases hc : c.toNat < 128
    · rw [utf8EncodeChar_of_lt hc, List.mem_singleton] at h
      rw [← Char.toNat_inj, ← hbyte hm, ← hbyte hc, h]
    · have hle := le_of_mem_utf8EncodeChar (Nat.le_of_not_lt hc) h
      have hm' := hbyte hm
      omega
  · rintro rfl
    rw [utf8EncodeChar_of_lt hm]
    exact List.mem_singleton_self _

/-- A string is stored as the bytes of its characters, one behind the other. -/
theorem toList_data_toUTF8 (s : String) :
    s.toUTF8.data.toList = s.toList.flatMap String.utf8EncodeChar := by
  have hstored : s.toUTF8 = s.toList.utf8Encode := by
    rw [String.toUTF8_eq_toByteArray, ← String.toByteArray_ofList, String.ofList_toList]
  rw [hstored, List.utf8Encode, List.data_toByteArray]

/-- **The bytes of a text show whether there is something to replace in it.** -/
theorem any_isMarkByte (s : String) :
    s.toUTF8.data.any isMarkByte = true ↔ ∃ c ∈ s.toList, c ∈ marks := by
  have hsmall : ∀ m ∈ marks, m.toNat < 128 := by simp [marks]
  rw [← Array.any_toList, toList_data_toUTF8, List.any_eq_true]
  constructor
  · rintro ⟨b, hb, hmark⟩
    obtain ⟨c, hc, hbc⟩ := List.mem_flatMap.mp hb
    obtain ⟨m, hm, heq⟩ := List.any_eq_true.mp hmark
    obtain rfl := beq_iff_eq.mp heq
    obtain rfl := (toUInt8_mem_utf8EncodeChar_iff (hsmall m hm) c).mp hbc
    exact ⟨m, hc, hm⟩
  · rintro ⟨c, hc, hm⟩
    have hbyte := (toUInt8_mem_utf8EncodeChar_iff (hsmall c hm) c).mpr rfl
    exact ⟨c.toUInt8, List.mem_flatMap.mpr ⟨c, hc, hbyte⟩,
      List.any_eq_true.mpr ⟨c, hm, beq_self_eq_true _⟩⟩

/-! ### Rewriting -/

/-- A character that is written to a text is escaped. -/
theorem toList_writeEscaped (written : String) (c : Char) :
    (writeEscaped written c).toList = written.toList ++ escapeChar c := by
  unfold writeEscaped
  split
  · simp [escapeChar]
  · simp [escapeChar]
  · simp [escapeChar]
  · simp [escapeChar]
  · simp [escapeChar]
  · next hamp hlt hgt hquote hapostrophe =>
    rw [String.toList_push, escapeChar, if_neg hamp, if_neg hlt, if_neg hgt, if_neg hquote,
      if_neg hapostrophe]

/-- Characters that are written to a text one after the other are escaped. -/
theorem toList_foldl_writeEscaped (written : String) (cs : List Char) :
    (cs.foldl writeEscaped written).toList = written.toList ++ escapeChars cs := by
  induction cs generalizing written with
  | nil => simp
  | cons c cs ih =>
      rw [List.foldl_cons, ih, toList_writeEscaped, escapeChars_cons, List.append_assoc]

/-- A text is handed on exactly when there is nothing to replace in it. -/
theorem rewrite_eq_kept_iff (s : String) : rewrite s = .kept s ↔ ∀ c ∈ s.toList, c ∉ marks := by
  have hbytes := any_isMarkByte s
  rw [rewrite]
  split
  · next hany =>
    obtain ⟨c, hc, hmark⟩ := hbytes.mp hany
    exact ⟨fun heq => Rewriting.noConfusion heq, fun hnone => absurd hmark (hnone c hc)⟩
  · next hany =>
    exact ⟨fun _ c hc hmark => hany (hbytes.mpr ⟨c, hc, hmark⟩), fun _ => rfl⟩

/-- **What is handed on is what rewriting would have given.** -/
theorem text_rewrite (s : String) : (rewrite s).text = escape s := by
  by_cases hkept : rewrite s = .kept s
  · rw [hkept, escape, escapeChars_eq_self ((rewrite_eq_kept_iff s).mp hkept),
      String.ofList_toList]
    rfl
  · have hwritten := toList_foldl_writeEscaped "" s.toList
    rw [String.toList_empty, List.nil_append] at hwritten
    rw [rewrite] at hkept ⊢
    split
    · rw [Rewriting.text, escape, ← hwritten, String.ofList_toList]
    · next hnone => exact absurd (if_neg hnone) hkept

/-- A text in which nothing is taken for markup. -/
structure IsInert (s : String) : Prop where
  /-- Neither the ends of a tag nor those of a value stand in it. -/
  noMark : ∀ c ∈ ['<', '>', '"', '\''], c ∉ s.toList
  /-- Where an ampersand stands, one of the references begins. -/
  referenced : ∀ before behind, s.toList = before ++ '&' :: behind →
    ∃ r ∈ references, r.toList <+: '&' :: behind

/-- Escaped text is inert. -/
theorem isInert_escape (s : String) : IsInert (escape s) := by
  have hchars : (escape s).toList = escapeChars s.toList := String.toList_ofList
  refine ⟨fun c hc hmem => ?_, fun before behind h => ?_⟩
  · have hmarks : ∀ c ∈ ['<', '>', '"', '\''], c ≠ '&' ∧ c ∈ marks := by
      simp [marks]
    rw [hchars] at hmem
    obtain ⟨hne, hmark⟩ := hmarks c hc
    exact (eq_ampersand_or_of_mem_escapeChars hmem).elim hne fun hnot => hnot hmark
  · rw [hchars] at h
    obtain ⟨first, c, rest, -, hc, -, hbehind⟩ := exists_of_escapeChars_eq h
    obtain ⟨r, hr, hreference⟩ := exists_reference hc
    exact ⟨r, hr, by rw [hbehind, hreference]; exact List.prefix_append _ _⟩

/-- **Rewriting can be undone, and leaves nothing that is taken for markup.** Texts that are put
together are rewritten as their parts are, whichever of the three are handed on as they are. What
becomes of a text holds no end of a tag or a value, and every ampersand in it begins one of the
references. Reading these references from left to right gives the text again, also when there were
references in it before, and so no two texts become the same. -/
theorem rewrite_reversible :
    (∀ a b, (rewrite (a ++ b)).text = (rewrite a).text ++ (rewrite b).text) ∧
      (∀ s, IsInert (rewrite s).text) ∧ (∀ s, unescape (rewrite s).text = s) ∧
      Function.Injective fun s => (rewrite s).text := by
  have hback (s : String) : unescape (rewrite s).text = s := by
    rw [text_rewrite, unescape, escape, String.toList_ofList, unescapeChars_escapeChars,
      String.ofList_toList]
  refine ⟨fun a b => ?_, fun s => ?_, hback, Function.LeftInverse.injective hback⟩
  · rw [text_rewrite, text_rewrite, text_rewrite, escape, String.toList_append,
      escapeChars_append, String.ofList_append]
    rfl
  · rw [text_rewrite]
    exact isInert_escape s

/-- A reference that was there before is escaped like any other text. -/
example : rewrite "it's &lt;" = .written "it&#x27;s &amp;lt;" := by decide +kernel

end TwinRender.Text
