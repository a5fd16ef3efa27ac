import Mathlib
import TwinRender.Canonical.Attribute

/-!
# Names in lower case

Names of elements and attributes are compared without regard to the case of ASCII letters, and
compiled programs and documents hold them in lower case. Whatever is decided by a name is decided
by its lowercase form.

## Main results

* `toLower_toLower`: a lowercase form is its own lowercase form.
* `Html.isTagName_toLower`, `Html.isAttributeName_toLower`: names may be written in any case.
* `canonicalAttribute_boolean`: the canonical value of a boolean attribute is empty.
-/

namespace TwinRender

/-- A lowercase form is its own lowercase form. -/
@[simp] theorem toLower_toLower (s : String) : s.toLower.toLower = s.toLower := by
  simp only [String.toLower, String.map_map]
  congr 1
  funext c
  exact Char.toLower_toLower_eq_toLower c

/-- A name agrees with whatever its lowercase form agrees with. -/
@[simp] theorem sameIgnoringCase_toLower_left (a b : String) :
    Text.sameIgnoringCase a.toLower b = Text.sameIgnoringCase a b := by
  simp only [Text.sameIgnoringCase, toLower_toLower]

namespace Html

/-- Whether an element is void does not depend on the case of its tag. -/
@[simp] theorem isVoid_toLower (tag : String) : isVoid tag.toLower = isVoid tag := by
  unfold isVoid
  congr 1
  funext name
  exact sameIgnoringCase_toLower_left tag name

/-- A letter does not end the name of an attribute. -/
theorem endsAttributeName_of_isAlpha {c : Char} (h : c.isAlpha = true) :
    endsAttributeName c = false := by
  have hrange : (65 ≤ c.toNat ∧ c.toNat ≤ 90) ∨ (97 ≤ c.toNat ∧ c.toNat ≤ 122) := by
    simpa [Char.isAlpha, Char.isUpper, Char.isLower, UInt32.le_iff_toNat_le] using h
  have hmark : ['"', '\'', '>', '/', '=', '<'].contains c = false := by
    rw [List.contains_eq_any_beq, List.any_eq_false]
    intro mark hmark heq
    obtain rfl : c = mark := eq_of_beq heq
    simp only [List.mem_cons, List.not_mem_nil, or_false] at hmark
    rcases hmark with rfl | rfl | rfl | rfl | rfl | rfl <;> cases h
  have hspace : Text.isSpace c = false := by
    simp only [Text.isSpace, Bool.or_eq_false_iff, Bool.and_eq_false_iff, decide_eq_false_iff_not,
      beq_eq_false_iff_ne]
    omega
  have hcontrol : isControl c = false := by
    simp only [isControl, Bool.or_eq_false_iff, Bool.and_eq_false_iff, decide_eq_false_iff_not]
    omega
  rw [endsAttributeName, hspace, hcontrol, hmark]
  rfl

/-- Lowering a character does not change whether it ends the name of an attribute. -/
theorem endsAttributeName_toLower (c : Char) :
    endsAttributeName c.toLower = endsAttributeName c := by
  by_cases hupper : c.isUpper = true
  · have halpha : c.isAlpha = true := by rw [Char.isAlpha, hupper, Bool.true_or]
    rw [endsAttributeName_of_isAlpha halpha, endsAttributeName_of_isAlpha]
    rw [Char.isAlpha_toLower_eq_isAlpha, halpha]
  · rw [Char.toLower_eq_of_not_isUpper hupper]

/-- A character in a tag name behind its first one. -/
theorem isTagChar_toLower (c : Char) :
    (isAlphanumeric c.toLower || c.toLower == '-') = (isAlphanumeric c || c == '-') := by
  by_cases hupper : c.isUpper = true
  · have halpha : c.isAlpha = true := by rw [Char.isAlpha, hupper, Bool.true_or]
    simp [isAlphanumeric, halpha]
  · rw [Char.toLower_eq_of_not_isUpper hupper]

/-- Whether something is a tag name does not depend on its case. -/
@[simp] theorem isTagName_toLower (tag : String) : isTagName tag.toLower = isTagName tag := by
  rw [isTagName, isTagName, String.toLower, String.toList_map]
  cases tag.toList with
  | nil => rfl
  | cons c cs =>
      simp only [List.map_cons, Char.isAlpha_toLower_eq_isAlpha, List.all_map, Function.comp_def,
        isTagChar_toLower]

/-- Whether something is the name of an attribute does not depend on its case. -/
@[simp] theorem isAttributeName_toLower (name : String) :
    isAttributeName name.toLower = isAttributeName name := by
  have hempty : name.toLower.isEmpty = name.isEmpty := by
    rw [Bool.eq_iff_iff, String.isEmpty_iff, String.isEmpty_iff, String.toLower,
      String.map_eq_empty]
  rw [isAttributeName, isAttributeName, hempty, String.toLower, String.toList_map, List.all_map]
  simp only [Function.comp_def, endsAttributeName_toLower]

/-- The characters of a tag are letters, digits and hyphens. -/
theorem isTagChar_of_mem {tag : String} (h : isTagName tag = true) :
    ∀ c ∈ tag.toList, (isAlphanumeric c || c == '-') = true := by
  rw [isTagName] at h
  cases hlist : tag.toList with
  | nil => simp
  | cons c cs =>
      rw [hlist] at h
      simp only [Bool.and_eq_true, List.all_eq_true] at h
      rw [List.forall_mem_cons]
      exact ⟨by rw [isAlphanumeric, h.1]; rfl, h.2⟩

/-- No character in the name of an attribute ends it. -/
theorem not_endsAttributeName_of_mem {name : String} (h : isAttributeName name = true) :
    ∀ c ∈ name.toList, endsAttributeName c = false := by
  rw [isAttributeName, Bool.and_eq_true, List.all_eq_true] at h
  exact fun c hc => by simpa using h.2 c hc

/-- Whether an element has raw text does not depend on the case of its tag. -/
@[simp] theorem isRawText_toLower (tag : String) : isRawText tag.toLower = isRawText tag := by
  unfold isRawText
  congr 1
  funext name
  exact sameIgnoringCase_toLower_left tag name

end Html

/-- A boolean attribute is neither a style nor a list of words. -/
theorem AttributeKind.ofName_boolean {name : String} (h : Html.isBoolean name = true) :
    AttributeKind.ofName name = .boolean := by
  have hmem : name.toLower ∈ Html.booleanNames.map String.toLower := by
    simp only [Html.isBoolean, List.any_eq_true, Text.sameIgnoringCase_iff] at h
    obtain ⟨other, hother, heq⟩ := h
    exact List.mem_map.mpr ⟨other, hother, heq.symm⟩
  have hstyle : "style".toLower ∉ Html.booleanNames.map String.toLower := by decide +kernel
  have hclass : "class".toLower ∉ Html.booleanNames.map String.toLower := by decide +kernel
  have hs : Text.sameIgnoringCase name "style" = false := by
    rw [Bool.eq_false_iff, ne_eq, Text.sameIgnoringCase_iff]
    intro heq
    exact hstyle (heq ▸ hmem)
  have hc : Text.sameIgnoringCase name "class" = false := by
    rw [Bool.eq_false_iff, ne_eq, Text.sameIgnoringCase_iff]
    intro heq
    exact hclass (heq ▸ hmem)
  simp only [ofName, hs, hc, h, Bool.false_eq_true, if_false, if_true]

/-- The canonical value of a boolean attribute is empty. -/
theorem canonicalAttribute_boolean {name value : String} {raw : Option String}
    (hb : Html.isBoolean name = true) (h : canonicalAttribute name raw = some value) :
    value = "" := by
  cases raw with
  | none => exact absurd h (by simp [canonicalAttribute])
  | some raw =>
      simp only [canonicalAttribute, AttributeKind.ofName_boolean hb, Option.bind_some,
        AttributeKind.canonicalize, reduceCtorEq, false_and, if_false, Option.some.injEq] at h
      exact h.symm

/-- A bare attribute has the canonical form of an empty value: none for a style. -/
theorem canonicalAttribute_empty (name : String) :
    canonicalAttribute name (some "") =
      if Text.sameIgnoringCase name "style" then none else some "" := by
  have hstyle : Style.normalize "" = "" := by decide +kernel
  have hgeneric : Text.trimmed "" = "" := by decide +kernel
  simp only [canonicalAttribute, Option.bind_some, AttributeKind.ofName]
  by_cases hs : Text.sameIgnoringCase name "style" = true
  · simp [hs, AttributeKind.canonicalize, hstyle]
  · simp only [hs, Bool.false_eq_true, if_false]
    split
    · simp [AttributeKind.canonicalize, Text.words, Text.wordsFrom]
    · split <;> simp [AttributeKind.canonicalize, hgeneric]

end TwinRender
