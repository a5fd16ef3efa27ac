import TwinRender.Canonical.Attribute
import TwinRender.Proofs.Canonical.Style

/-!
# Canonical values that are made canonical again

The expected tree holds attributes in canonical form, and hydration compares their canonical form
with the one of the live value. The form of the canonical form is the form itself for lists of
words, boolean attributes and plain texts, and for every style that is stable. A style that is not
stable is compared with something else than itself.

## Main results

* `canonicalAttribute_again_iff`: when a canonical value is its own canonical form.
* `sameAttribute_canonicalAttribute_iff`: **comparison cannot tell a value from its canonical form
  exactly if the value is no style or a stable one**.
* `not_sameAttribute_canonicalAttribute`: a style for which it can.
-/

namespace TwinRender

/-- Values that are no styles are canonical when they are canonical forms. -/
theorem canonicalize_canonicalize {kind : AttributeKind} (h : kind ≠ .style) (raw : String) :
    kind.canonicalize (kind.canonicalize raw) = kind.canonicalize raw := by
  cases kind with
  | style => exact absurd rfl h
  | words =>
      have hwords : Text.words ([' '].intercalate (Text.words raw.toList)) =
          Text.words raw.toList :=
        Text.words_intercalate (Text.wordsFrom_isWord (by simp))
      have hlist : (" ".intercalate ((Text.words raw.toList).map String.ofList)).toList =
          [' '].intercalate (Text.words raw.toList) := by
        rw [String.toList_intercalate, List.map_map]
        congr 1
        exact (List.map_congr_left fun w _ => String.toList_ofList).trans (List.map_id _)
      simp only [AttributeKind.canonicalize, hlist, hwords]
  | boolean => rfl
  | generic => exact Text.trimmed_trimmed raw

/-- **A canonical value is its own canonical form** exactly if the value is no style or a stable
one. -/
theorem canonicalAttribute_again_iff (name raw : String) :
    canonicalAttribute name (canonicalAttribute name (some raw)) =
        canonicalAttribute name (some raw) ↔
      (AttributeKind.ofName name = .style → Style.IsStable raw) := by
  by_cases hstyle : AttributeKind.ofName name = .style
  · rw [forall_prop_of_true hstyle, ← Style.normalize_normalize_iff]
    have hform (value : String) : canonicalAttribute name (some value) =
        if Style.normalize value = "" then none else some (Style.normalize value) := by
      simp only [canonicalAttribute, Option.bind_some, hstyle, AttributeKind.canonicalize,
        true_and, String.isEmpty_iff]
    by_cases hempty : Style.normalize raw = ""
    · have hnil : Style.normalize "" = "" := by decide +kernel
      rw [hform, if_pos hempty, hempty, hnil]
      exact iff_of_true rfl rfl
    · rw [hform, if_neg hempty, hform]
      split
      · next hagain =>
          rw [hagain]
          exact iff_of_false (by simp) (Ne.symm hempty)
      · rw [Option.some.injEq]
  · refine iff_of_true ?_ fun h => absurd h hstyle
    have hform (value : String) : canonicalAttribute name (some value) =
        some ((AttributeKind.ofName name).canonicalize value) := by
      simp only [canonicalAttribute, Option.bind_some, hstyle, false_and, if_false]
    rw [hform, hform, canonicalize_canonicalize hstyle]

/-- **Comparison cannot tell a value from its canonical form** exactly if the value is no style or
a stable one. -/
theorem sameAttribute_canonicalAttribute_iff (name raw : String) :
    (∀ found, sameAttribute name (canonicalAttribute name (some raw)) found =
        sameAttribute name (some raw) found) ↔
      (AttributeKind.ofName name = .style → Style.IsStable raw) := by
  rw [← canonicalAttribute_again_iff]
  constructor
  · intro h
    have hself := h (some raw)
    simpa [sameAttribute] using hself
  · intro h found
    rw [sameAttribute, h, sameAttribute]

/-- A style with an open parenthesis differs from its own canonical form. -/
theorem not_sameAttribute_canonicalAttribute :
    ¬ ∀ (name raw : String) (found : Option String),
      sameAttribute name (canonicalAttribute name (some raw)) found =
        sameAttribute name (some raw) found := by
  intro h
  have hself := h "style" "width: calc(1px" (some "width: calc(1px")
  exact absurd hself (by decide +kernel)

end TwinRender
