import TwinRender.Proofs.Hydration.Whole

/-!
# Passes that do not start

A pass checks everything before it looks at the first node: the program, its run, and the root. What
it refuses then, it refuses with the document as it was. Once it has started, the document refuses
no repair, so the pass comes to its end whatever the live tree, the expected nodes and the options
are.

## Main definitions

* `Refused`: the reasons for which a pass does not start.

## Main results

* `Document.checkRoot_eq_error_iff`, `expectedNodes_eq_error_iff`: when the checks fail.
* `hydrateInPlace_error_iff`: **a pass fails for no other reason, and leaves the document as it
  was**.
-/

namespace TwinRender

variable {d : Document} {root : NodeId} {p : Program} {scope : Scope} {e : HydrationError}

/-! ### Checks -/

/-- A root is refused when it is not known, when it is a text or a comment, and when it is not in
the tree. -/
theorem Document.checkRoot_eq_error_iff :
    d.checkRoot root = .error e ↔
      (d.payload? root = none ∧ e = .dom (.unknownNode root)) ∨
        (∃ s, (d.payload? root = some (.text s) ∨ d.payload? root = some (.comment s)) ∧
          e = .invalidRoot root) ∨
        (d.payload? root).any Payload.isContainer = true ∧ d.isAttached root = false ∧
          e = .detachedRoot root := by
  rw [checkRoot]
  cases d.payload? root with
  | none =>
      constructor
      · intro h
        cases h
        exact Or.inl ⟨rfl, rfl⟩
      · rintro (⟨-, rfl⟩ | ⟨s, h | h, -⟩ | ⟨h, -⟩)
        · rfl
        · cases h
        · cases h
        · cases h
  | some payload =>
      cases payload with
      | text s =>
          constructor
          · intro h
            cases h
            exact Or.inr (Or.inl ⟨s, Or.inl rfl, rfl⟩)
          · rintro (⟨h, -⟩ | ⟨_, -, rfl⟩ | ⟨h, -⟩)
            · cases h
            · rfl
            · cases h
      | comment s =>
          constructor
          · intro h
            cases h
            exact Or.inr (Or.inl ⟨s, Or.inr rfl, rfl⟩)
          · rintro (⟨h, -⟩ | ⟨_, -, rfl⟩ | ⟨h, -⟩)
            · cases h
            · rfl
            · cases h
      | document => cases d.isAttached root <;> simp [Payload.isContainer, eq_comm]
      | element tag attributes =>
          cases d.isAttached root <;> simp [Payload.isContainer, eq_comm]

/-- A pass can start at a root that is not refused. -/
theorem Document.isRoot_of_checkRoot (h : d.checkRoot root = .ok ()) : d.IsRoot root := by
  rw [checkRoot] at h
  cases hpayload : d.payload? root with
  | none => rw [hpayload] at h; cases h
  | some payload =>
      rw [hpayload] at h
      cases hcontainer : payload.isContainer with
      | false => simp [hcontainer] at h
      | true =>
          cases hattached : d.isAttached root with
          | false => simp [hcontainer, hattached] at h
          | true => exact ⟨by rw [hpayload, Option.any_some, hcontainer], hattached⟩

/-- There are no expected nodes when the program is for something else, and when its run fails. -/
theorem expectedNodes_eq_error_iff :
    expectedNodes p scope = .error e ↔
      (p.target ≠ .client ∧ e = .wrongTarget p.target) ∨
        ∃ reason, p.target = .client ∧ renderClient p scope = .error reason ∧
          e = .render reason := by
  rw [expectedNodes]
  by_cases htarget : p.target = .client
  · rw [if_pos htarget]
    cases renderClient p scope with
    | ok nodes => simp [Except.mapError, htarget]
    | error reason => simp [Except.mapError, htarget, eq_comm]
  · rw [if_neg htarget]
    simp [htarget, eq_comm]

/-! ### Refused passes -/

/-- The reasons for which a pass does not start. The root is not looked at before the expected nodes
are known. -/
inductive Refused (d : Document) (root : NodeId) (p : Program) (scope : Scope) :
    HydrationError → Prop where
  /-- The program does not describe a tree. -/
  | wrongTarget (target : p.target ≠ .client) : Refused d root p scope (.wrongTarget p.target)
  /-- The run of the program fails. -/
  | render {reason : RenderError} (target : p.target = .client)
      (failed : renderClient p scope = .error reason) : Refused d root p scope (.render reason)
  /-- The root is not known. -/
  | unknownRoot {nodes : List VNode} (rendered : expectedNodes p scope = .ok nodes)
      (unknown : d.payload? root = none) : Refused d root p scope (.dom (.unknownNode root))
  /-- The root is a text or a comment. -/
  | invalidRoot {nodes : List VNode} (rendered : expectedNodes p scope = .ok nodes) {s : String}
      (leaf : d.payload? root = some (.text s) ∨ d.payload? root = some (.comment s)) :
      Refused d root p scope (.invalidRoot root)
  /-- The root is not in the tree. -/
  | detachedRoot {nodes : List VNode} (rendered : expectedNodes p scope = .ok nodes)
      (container : (d.payload? root).any Payload.isContainer = true)
      (detached : d.isAttached root = false) : Refused d root p scope (.detachedRoot root)

namespace Refused

/-- The reasons that are there without expected nodes. -/
theorem iff_of_failed {failure : HydrationError} (h : expectedNodes p scope = .error failure) :
    Refused d root p scope e ↔ failure = e := by
  have hfailed := expectedNodes_eq_error_iff.mp h
  constructor
  · intro hrefused
    cases hrefused with
    | wrongTarget target =>
        rcases hfailed with ⟨-, rfl⟩ | ⟨_, htarget, -⟩
        · rfl
        · exact absurd htarget target
    | render target failed =>
        rcases hfailed with ⟨hother, -⟩ | ⟨_, -, hfailed, rfl⟩
        · exact absurd target hother
        · rw [failed, Except.error.injEq] at hfailed
          rw [hfailed]
    | unknownRoot rendered => rw [h] at rendered; cases rendered
    | invalidRoot rendered => rw [h] at rendered; cases rendered
    | detachedRoot rendered => rw [h] at rendered; cases rendered
  · rintro rfl
    rcases hfailed with ⟨htarget, rfl⟩ | ⟨reason, htarget, hfailed, rfl⟩
    · exact wrongTarget htarget
    · exact render htarget hfailed

/-- The reasons that are there with expected nodes are those of the root. -/
theorem iff_of_rendered {nodes : List VNode} (h : expectedNodes p scope = .ok nodes) :
    Refused d root p scope e ↔ d.checkRoot root = .error e := by
  have hnot (e : HydrationError) : ¬ expectedNodes p scope = .error e := by
    rw [h]
    intro heq
    cases heq
  rw [Document.checkRoot_eq_error_iff]
  constructor
  · intro hrefused
    cases hrefused with
    | wrongTarget target =>
        exact absurd (expectedNodes_eq_error_iff.mpr (Or.inl ⟨target, rfl⟩)) (hnot _)
    | render target failed =>
        exact absurd (expectedNodes_eq_error_iff.mpr (Or.inr ⟨_, target, failed, rfl⟩)) (hnot _)
    | unknownRoot _ unknown => exact Or.inl ⟨unknown, rfl⟩
    | invalidRoot _ leaf => exact Or.inr (Or.inl ⟨_, leaf, rfl⟩)
    | detachedRoot _ container detached => exact Or.inr (Or.inr ⟨container, detached, rfl⟩)
  · rintro (⟨hunknown, rfl⟩ | ⟨s, hleaf, rfl⟩ | ⟨hcontainer, hdetached, rfl⟩)
    · exact unknownRoot h hunknown
    · exact invalidRoot h hleaf
    · exact detachedRoot h hcontainer hdetached

end Refused

/-- **A pass fails for no other reason than those for which it does not start**, and then it leaves
the document as it was. Once it has started, no repair is refused, and it comes to its end. -/
theorem hydrateInPlace_error_iff (o : HydrationOptions) (hd : d.Reachable) (root : NodeId)
    (p : Program) (scope : Scope) :
    (∀ e, (hydrateInPlace o d root p scope).2 = .error e ↔ Refused d root p scope e) ∧
      (∀ e, Refused d root p scope e → (hydrateInPlace o d root p scope).1 = d) ∧
      ((∀ e, ¬ Refused d root p scope e) → ∃ r, (hydrateInPlace o d root p scope).2 = .ok r) := by
  rw [hydrateInPlace]
  cases hnodes : expectedNodes p scope with
  | error failure =>
      have hiff (e : HydrationError) := @Refused.iff_of_failed d root p scope e _ hnodes
      refine ⟨fun e => ?_, fun _ _ => rfl, fun h => absurd ((hiff failure).mpr rfl) (h failure)⟩
      rw [hiff, Except.error.injEq]
  | ok nodes =>
      have hiff (e : HydrationError) := @Refused.iff_of_rendered d root p scope e _ hnodes
      simp only [hiff]
      cases hcheck : d.checkRoot root with
      | error failure =>
          simp only [hydrateNodesInPlace, hcheck, Except.error.injEq]
          exact ⟨fun _ => trivial, fun _ _ => trivial, fun h => absurd rfl (h failure)⟩
      | ok _ =>
          -- the root is good, so the walk carries out its plan
          have hroot := Document.isRoot_of_checkRoot hcheck
          obtain ⟨payload, above, ts, hcontainer, hhas⟩ := hroot.exists_has hd.sound
          obtain ⟨q, hrun, -⟩ := hydrateNodesInPlace_carries o hd hroot hcontainer hhas nodes
          rw [hrun]
          refine ⟨fun e => ⟨fun h => ?_, fun h => ?_⟩, fun e h => ?_, fun _ => ⟨q.report, rfl⟩⟩
          · cases h
          · cases h
          · cases h

/-- A pass is refused at a text, and comes to its end at the node above it. -/
theorem hydrateInPlace_error_text :
    (Document.parse "a").Reachable ∧
      Refused (Document.parse "a") 1 ⟨"t", .client, [], []⟩ (.ofData .null) (.invalidRoot 1) ∧
      hydrateInPlace .standard (Document.parse "a") 1 ⟨"t", .client, [], []⟩ (.ofData .null) =
        (Document.parse "a", .error (.invalidRoot 1)) ∧
      ∃ r, (hydrateInPlace .standard (Document.parse "a") Document.root ⟨"t", .client, [], []⟩
        (.ofData .null)).2 = .ok r := by
  have hnodes : expectedNodes ⟨"t", .client, [], []⟩ (.ofData .null) = .ok [] := by cbv
  have hreachable : (Document.parse "a").Reachable := .parse "a"
  have hrefused : Refused (Document.parse "a") 1 ⟨"t", .client, [], []⟩ (.ofData .null)
      (.invalidRoot 1) := @Refused.invalidRoot _ _ _ _ _ hnodes "a" (Or.inl (by decide +kernel))
  obtain ⟨hiff, hsame, -⟩ := hydrateInPlace_error_iff .standard hreachable 1
    ⟨"t", .client, [], []⟩ (.ofData .null)
  obtain ⟨-, -, hends⟩ := hydrateInPlace_error_iff .standard hreachable Document.root
    ⟨"t", .client, [], []⟩ (.ofData .null)
  refine ⟨hreachable, hrefused, Prod.ext (hsame _ hrefused) ((hiff _).mpr hrefused), hends ?_⟩
  intro e h
  have hcheck : (Document.parse "a").checkRoot Document.root = .ok () := by decide +kernel
  rw [Refused.iff_of_rendered hnodes, hcheck] at h
  cases h

end TwinRender
