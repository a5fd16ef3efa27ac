import TwinRender.Proofs.Hydration.Plan

/-!
# Differences after patches

Patches give attributes the values that are expected, and touch no other attribute. So what still
differs afterwards is exactly what was not to be patched, in the same order.

## Main definitions

* `Plan.Patches`: some records say to patch an attribute.

## Main results

* `Plan.get?_patches`, `Plan.others_patches`: the attributes after patches.
* `Plan.differences_patches`: **patches leave the differences that are not to be patched**.
-/

namespace TwinRender.Plan

open Pass (comparedNames)

variable {o : HydrationOptions} {tag : String} {path : List Nat}
  {expected found : OrderedMap String} {records : List Record}

/-- Some records say to patch an attribute. -/
def Patches (records : List Record) (name : String) : Prop :=
  ∃ r ∈ records, r.action = .patchValue ∧ r.mismatch.divergence.name? = some name

/-- A record says how an attribute, with a name in lower case, differs from the expected ones. -/
def Differs (expected : OrderedMap String) (r : Record) : Prop :=
  ∃ name live, r.mismatch.divergence = .attribute name (expected.get? name) live ∧
    name.toLower = name

/-- The names of the attributes that are not expected. -/
def others (expected found : OrderedMap String) : List String :=
  found.keys.filter fun name => !expected.contains name

/-! ### One patch -/

/-- The values after an attribute is patched. -/
theorem get?_patch {name : String} (hname : name.toLower = name) (live : Option String)
    (key : String) :
    (patch found (.attribute name (expected.get? name) live)).value.get? key =
      if key = name then expected.get? key else found.get? key := by
  cases hwant : expected.get? name with
  | some value =>
      rw [patch, OrderedMap.get?_insert, hname]
      by_cases hkey : key = name
      · rw [if_pos hkey, if_pos hkey, hkey, hwant]
      · rw [if_neg hkey, if_neg hkey]
  | none =>
      rw [patch, OrderedMap.get?_erase, hname]
      by_cases hkey : key = name
      · rw [if_pos hkey, if_pos hkey, hkey, hwant]
      · rw [if_neg hkey, if_neg hkey]

/-- The attributes that are not expected, after one is patched. -/
theorem others_patch {name : String} (hname : name.toLower = name) (live : Option String) :
    others expected (patch found (.attribute name (expected.get? name) live)).value =
      (others expected found).filter fun other => other ≠ name := by
  have hpresent (other : String) (h : other ∈ others expected found) :
      expected.get? other = none := by
    simpa [OrderedMap.contains] using (List.mem_filter.mp h).2
  cases hwant : expected.get? name with
  | some value =>
      -- an expected attribute is not among the others, before and after
      have hcontains : expected.contains name = true := by rw [OrderedMap.contains, hwant]; rfl
      have hsame : (others expected found).filter (fun other => other ≠ name) =
          others expected found := by
        refine List.filter_eq_self.mpr fun other hother => ?_
        have hnone := hpresent other hother
        rw [decide_eq_true_iff]
        rintro rfl
        rw [hwant] at hnone
        cases hnone
      rw [hsame, patch, others, others, OrderedMap.keys_insert, hname]
      split
      · rfl
      · rw [List.filter_append, List.filter_cons_of_neg (by simp [hcontains]), List.filter_nil,
          List.append_nil]
  | none =>
      rw [patch, others, others, OrderedMap.keys_erase, hname, List.filter_filter,
        List.filter_filter]
      exact List.filter_congr fun other _ => Bool.and_comm _ _

/-! ### All patches -/

/-- One more record says to patch its own attribute. -/
theorem patches_cons_iff {r : Record} {name key : String} {want live : Option String}
    (h : r.mismatch.divergence = .attribute name want live) :
    Patches (r :: records) key ↔ (r.action = .patchValue ∧ key = name) ∨ Patches records key := by
  simp only [Patches, List.exists_mem_cons_iff, h, Divergence.name?, Option.some.injEq]
  rw [@eq_comm _ name key]

open Classical in
/-- **The values after patches**: the patched ones are as expected. -/
theorem get?_patches (h : ∀ r ∈ records, Differs expected r) (key : String) :
    (patches found records).value.get? key =
      if Patches records key then expected.get? key else found.get? key := by
  induction records generalizing found with
  | nil => rw [if_neg fun hpatch => by simp [Patches] at hpatch]; rfl
  | cons r rest ih =>
      rw [List.forall_mem_cons] at h
      obtain ⟨name, live, hdivergence, hname⟩ := h.1
      have hcons := @patches_cons_iff rest r name key _ _ hdivergence
      rw [patches, ih h.2]
      by_cases hrest : Patches rest key
      · rw [if_pos hrest, if_pos (hcons.mpr (Or.inr hrest))]
      · rw [if_neg hrest]
        by_cases haction : r.action = .patchValue
        · rw [if_pos haction, hdivergence]
          refine (get?_patch hname live key).trans (if_congr ?_ rfl rfl)
          rw [hcons]
          exact ⟨fun hkey => Or.inl ⟨haction, hkey⟩, fun hor => (hor.resolve_right hrest).2⟩
        · rw [if_neg haction, if_neg fun hor => ?_]
          · rfl
          · exact (hcons.mp hor).elim (fun hpatch => haction hpatch.1) hrest

open Classical in
/-- **The attributes that are not expected, after patches**: the patched ones are gone. -/
theorem others_patches (h : ∀ r ∈ records, Differs expected r) :
    others expected (patches found records).value =
      (others expected found).filter fun name => ¬ Patches records name := by
  induction records generalizing found with
  | nil =>
      refine (List.filter_eq_self.mpr fun name _ => ?_).symm
      simp [Patches]
  | cons r rest ih =>
      rw [List.forall_mem_cons] at h
      obtain ⟨name, live, hdivergence, hname⟩ := h.1
      have hcons (key : String) := @patches_cons_iff rest r name key _ _ hdivergence
      rw [patches, ih h.2]
      by_cases haction : r.action = .patchValue
      · rw [if_pos haction, hdivergence]
        refine (congrArg (List.filter _) (others_patch hname live)).trans ?_
        rw [List.filter_filter]
        refine List.filter_congr fun key _ => ?_
        rw [← Bool.decide_and, decide_eq_decide, hcons]
        tauto
      · rw [if_neg haction]
        refine List.filter_congr fun key _ => ?_
        rw [decide_eq_decide, hcons]
        tauto

/-! ### Differences -/

/-- The record of an attribute that differs. -/
theorem difference?_eq_some_iff {name : String} {want live : Option String} {r : Record} :
    difference? o tag path name want live = some r ↔ sameAttribute name want live = false ∧
      r = ⟨⟨path, "<" ++ tag ++ ">", .attribute name want live⟩, o.attributeActionFor name⟩ := by
  rw [difference?]
  cases sameAttribute name want live with
  | true => simp
  | false =>
      simp only [Bool.false_eq_true, if_false, Option.some.injEq, true_and]
      exact eq_comm

/-- A value is the same as itself. -/
theorem difference?_self (name : String) (want : Option String) :
    difference? o tag path name want want = none := by
  rw [difference?, if_pos]
  exact beq_self_eq_true _

/-- Differences are records of attributes. -/
theorem differs_of_mem (hexpected : ∀ name ∈ expected.keys, name.toLower = name)
    (hfound : ∀ name ∈ found.keys, name.toLower = name) {r : Record}
    (hr : r ∈ differences o tag path expected found) : Differs expected r := by
  obtain ⟨name, hname, hsome⟩ := List.mem_filterMap.mp hr
  obtain ⟨-, rfl⟩ := difference?_eq_some_iff.mp hsome
  refine ⟨name, _, rfl, ?_⟩
  rcases List.mem_append.mp hname with hname | hname
  · exact hexpected name hname
  · exact hfound name (List.mem_filter.mp hname).1

/-- The difference that is left of one attribute. -/
theorem difference?_patches (hexpected : ∀ name ∈ expected.keys, name.toLower = name)
    (hfound : ∀ name ∈ found.keys, name.toLower = name) {name : String}
    (hname : name ∈ comparedNames expected found) :
    difference? o tag path name (expected.get? name)
        ((patches found (differences o tag path expected found)).value.get? name.toLower) =
      (difference? o tag path name (expected.get? name) (found.get? name.toLower)).filter
        fun r => decide (r.action ≠ .patchValue) := by
  have hlower : name.toLower = name := by
    rcases List.mem_append.mp hname with hname | hname
    · exact hexpected name hname
    · exact hfound name (List.mem_filter.mp hname).1
  rw [hlower, get?_patches fun r => differs_of_mem hexpected hfound]
  by_cases hpatch : Patches (differences o tag path expected found) name
  · rw [if_pos hpatch, difference?_self]
    obtain ⟨r, hr, haction, hrname⟩ := hpatch
    obtain ⟨other, -, hsome⟩ := List.mem_filterMap.mp hr
    obtain ⟨-, rfl⟩ := difference?_eq_some_iff.mp hsome
    obtain rfl : other = name := Option.some.inj hrname
    rw [hlower] at hsome
    rw [hsome, Option.filter_some_neg]
    simpa using haction
  · rw [if_neg hpatch]
    cases hsome : difference? o tag path name (expected.get? name) (found.get? name) with
    | none => rfl
    | some r =>
        obtain ⟨-, hr⟩ := difference?_eq_some_iff.mp hsome
        rw [Option.filter_some_pos]
        rw [decide_eq_true_iff]
        refine fun haction => hpatch ⟨r, List.mem_filterMap.mpr ⟨name, hname, ?_⟩, haction, ?_⟩
        · rw [hlower, hsome]
        · rw [hr]
          rfl

/-- **Patches leave the differences that are not to be patched.** -/
theorem differences_patches (hexpected : ∀ name ∈ expected.keys, name.toLower = name)
    (hfound : ∀ name ∈ found.keys, name.toLower = name) :
    differences o tag path expected
        (patches found (differences o tag path expected found)).value =
      (differences o tag path expected found).filter
        fun r => decide (r.action ≠ .patchValue) := by
  classical
  have hdiffers := fun r => @differs_of_mem o tag path _ _ hexpected hfound r
  generalize hvalue : (patches found (differences o tag path expected found)).value = left
  have hothers : others expected left = (others expected found).filter
      fun name => ¬ Patches (differences o tag path expected found) name := by
    rw [← hvalue]
    exact others_patches hdiffers
  have hleft (name : String) (hname : name ∈ comparedNames expected found) :=
    hvalue ▸ @difference?_patches o tag path _ _ hexpected hfound name hname
  conv_rhs => rw [differences, List.filter_filterMap]
  rw [differences]
  change (expected.keys ++ others expected left).filterMap _ =
    (expected.keys ++ others expected found).filterMap _
  rw [List.filterMap_append, List.filterMap_append, hothers, List.filterMap_filter]
  congr 1
  · exact List.filterMap_congr fun name hname => hleft name (List.mem_append_left _ hname)
  · -- what is gone does not differ any more
    refine List.filterMap_congr fun name hname => ?_
    rw [← hleft name (List.mem_append_right _ hname)]
    split
    · rfl
    · rename_i hpatch
      rw [decide_not, Bool.not_eq_true', decide_eq_false_iff_not, not_not] at hpatch
      have hlower := hfound name (List.mem_filter.mp hname).1
      rw [hlower, ← hvalue, get?_patches hdiffers, if_pos hpatch, difference?_self]

end TwinRender.Plan
