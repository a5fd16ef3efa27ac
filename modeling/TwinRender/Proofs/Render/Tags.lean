import Mathlib.Data.List.Basic
import TwinRender.Render.Stream
import TwinRender.Render.Tree

/-!
# Open elements

The writer of markup and the builder of trees have little in common but the tags of the elements
that have not ended. An event is refused by either of them exactly if it ends an element that is not
the innermost one, so whether a run is refused, and why, can be read off the tags alone. Only the
builder minds elements that are open when nothing more comes.

## Main definitions

* `Event.openTags`: the open elements behind an event.
* `Run.openTags`: the open elements at the end of a run, or its failure.
* `Event.Balanced`: events that end what they begin, and nothing else.

## Main results

* `Run.stream_failure_eq`: markup fails as the open elements do.
* `Run.tree_eq_error_iff`: so does a tree, and also when an element is open at the end.
* `Event.exists_innermost`: the innermost open element is the last one whose content is balanced.
-/

namespace TwinRender

namespace Event

/-- The tags of the elements that are open behind an event, innermost first. -/
def openTags (tags : List String) : Event → Except RenderError (List String)
  | .openElement tag => .ok (tag :: tags)
  | .closeElement tag =>
    match tags with
    | t :: ts => if t = tag then .ok ts else .error (.unbalancedClose tag)
    | [] => .error (.unbalancedClose tag)
  | .attribute _ _ => .ok tags
  | .text _ => .ok tags

/-- Where an element ends without failure, it was the innermost one. -/
theorem openTags_closeElement_eq_ok {tags tags' : List String} {tag : String}
    (h : openTags tags (.closeElement tag) = .ok tags') : tags = tag :: tags' := by
  cases tags with
  | nil => cases h
  | cons t ts =>
      simp only [openTags] at h
      split at h
      · next ht => rw [ht, Except.ok.inj h]
      · cases h

end Event

/-- The tags of the elements that are open at the end of a run, or the failure of the run. -/
def Run.openTags (r : Run) : Except RenderError (List String) := do
  let tags ← r.events.foldlM Event.openTags []
  let _ ← r.state
  return tags

/-- The open elements at the end of a run that did not fail. -/
theorem Run.foldlM_of_openTags {r : Run} {tags : List String} (h : r.openTags = .ok tags) :
    r.events.foldlM Event.openTags [] = .ok tags := by
  rw [openTags] at h
  cases hevents : r.events.foldlM Event.openTags [] with
  | error e => rw [hevents] at h; cases h
  | ok tags' =>
      rw [hevents] at h
      cases hstate : r.state with
      | error e => rw [hstate] at h; cases h
      | ok pending => rw [hstate] at h; exact h

/-! ### The writer -/

namespace Writer

/-- The writer keeps track of the open elements. -/
theorem step_openTags (w : Writer) (e : Event) :
    (w.step e).map (fun next => next.1.openTags) = e.openTags w.openTags := by
  rcases e with tag | ⟨name, value⟩ | tag | text
  · rfl
  · rfl
  · obtain ⟨_ | ⟨t, ts⟩, _⟩ := w
    · rfl
    · simp only [step, Event.openTags]
      split <;> rfl
  · rw [step, Event.openTags]
    split <;> rfl

/-- The writer is fed until an element ends that is not the innermost one. -/
theorem feed_openTags (w : Writer) (events : List Event) :
    (w.feed events).2.map Writer.openTags = events.foldlM Event.openTags w.openTags := by
  induction events generalizing w with
  | nil => rfl
  | cons e rest ih =>
      have hstep := w.step_openTags e
      rw [feed, List.foldlM_cons, ← hstep]
      cases w.step e with
      | error reason => rfl
      | ok next => exact ih next.1

end Writer

/-- **Markup fails** as the open elements do. -/
theorem Run.stream_failure_eq (r : Run) :
    r.stream.2 = match r.openTags with
      | .error reason => some reason
      | .ok _ => none := by
  have hfeed := Writer.start.feed_openTags r.events
  have hstart : Writer.start.openTags = [] := rfl
  rw [Run.openTags, ← hstart, ← hfeed, Run.stream]
  rcases Writer.start.feed r.events with ⟨pieces, _ | w⟩
  · rfl
  · cases r.state <;> rfl

/-- The stream of a server program fails as its open elements do. -/
theorem stream_eq_some_iff {p : Program} {scope : Scope} {e : RenderError} :
    (stream p scope).2 = some e ↔ (p.run .server scope).openTags = .error e := by
  rw [stream, Run.stream_failure_eq]
  cases (p.run .server scope).openTags <;> simp

/-- The stream of a server program ends well if its open elements are known at the end. -/
theorem stream_eq_none_iff {p : Program} {scope : Scope} :
    (stream p scope).2 = none ↔ ∃ tags, (p.run .server scope).openTags = .ok tags := by
  rw [stream, Run.stream_failure_eq]
  cases (p.run .server scope).openTags <;> simp

/-! ### The builder of trees -/

namespace TreeBuilder

/-- The tags of the elements that have not ended. -/
def openTags (b : TreeBuilder) : List String := b.openElements.map OpenElement.tag

/-- A node does not begin or end an element. -/
theorem openTags_push (b : TreeBuilder) (n : VNode) : (b.push n).openTags = b.openTags := by
  obtain ⟨roots, _ | ⟨e, es⟩⟩ := b <;> rfl

/-- The builder keeps track of the open elements. -/
theorem step_openTags (b : TreeBuilder) (e : Event) :
    (b.step e).map openTags = e.openTags b.openTags := by
  rcases e with tag | ⟨name, value⟩ | tag | text
  · rfl
  · obtain ⟨roots, _ | ⟨element, rest⟩⟩ := b <;> rfl
  · obtain ⟨roots, _ | ⟨element, rest⟩⟩ := b
    · rfl
    · simp only [step, Event.openTags, openTags, List.map_cons]
      split
      · exact congrArg Except.ok (openTags_push _ _)
      · rfl
  · exact congrArg Except.ok (openTags_push b _)

/-- The tree is built until an element ends that is not the innermost one. -/
theorem foldlM_openTags (events : List Event) (b : TreeBuilder) :
    (events.foldlM step b).map openTags = events.foldlM Event.openTags b.openTags := by
  induction events generalizing b with
  | nil => rfl
  | cons e rest ih =>
      have hstep := b.step_openTags e
      rw [List.foldlM_cons, List.foldlM_cons, ← hstep]
      cases b.step e with
      | error reason => rfl
      | ok next => exact ih next

/-- A tree is not finished while an element is open. -/
theorem finish_eq_error_iff {b : TreeBuilder} {e : RenderError} :
    b.finish = .error e ↔ ∃ tag tags, b.openTags = tag :: tags ∧ e = .unbalancedClose tag := by
  rw [finish, openTags]
  cases b.openElements with
  | nil => simp
  | cons element rest => simp [eq_comm]

end TreeBuilder

/-- **A tree fails** as the open elements do, and also when an element is open at the end. -/
theorem Run.tree_eq_error_iff {r : Run} {e : RenderError} :
    r.tree = .error e ↔ r.openTags = .error e ∨
      ∃ tag tags, r.openTags = .ok (tag :: tags) ∧ e = .unbalancedClose tag := by
  have hbuild := TreeBuilder.foldlM_openTags r.events .empty
  have hempty : TreeBuilder.empty.openTags = [] := rfl
  rw [Run.openTags, ← hempty, ← hbuild, Run.tree]
  cases r.events.foldlM TreeBuilder.step .empty with
  | error reason => simp [bind, Except.bind, Except.map]
  | ok b =>
      cases r.state with
      | error reason => simp [bind, Except.bind, Except.map]
      | ok pending => simpa [bind, Except.bind, Except.map, pure, Except.pure] using
          TreeBuilder.finish_eq_error_iff

/-! ### Elements left open -/

namespace Event

/-- Events that end all elements that they begin, and no others. -/
inductive Balanced : List Event → Prop
  /-- No events. -/
  | nil : Balanced []
  /-- An attribute. -/
  | setAttribute (name value : String) {rest : List Event} (h : Balanced rest) :
    Balanced (.attribute name value :: rest)
  /-- A text. -/
  | text (text : String) {rest : List Event} (h : Balanced rest) : Balanced (.text text :: rest)
  /-- An element with its content. -/
  | element (tag : String) {inside rest : List Event} (hinside : Balanced inside)
    (hrest : Balanced rest) :
    Balanced (.openElement tag :: (inside ++ .closeElement tag :: rest))

/-- Balanced events one behind the other are balanced. -/
theorem Balanced.append {a b : List Event} (ha : Balanced a) (hb : Balanced b) :
    Balanced (a ++ b) := by
  induction ha with
  | nil => exact hb
  | setAttribute name value _ ih => exact .setAttribute name value ih
  | text text _ ih => exact .text text ih
  | element tag hinside _ _ ih =>
      rw [List.cons_append, List.append_assoc, List.cons_append]
      exact .element tag hinside ih

/-- **The innermost open element**: the content behind its beginning is balanced, and the elements
around it are the ones that were open before. -/
theorem exists_innermost {events : List Event} {tag : String} {tags : List String}
    (h : events.foldlM openTags [] = .ok (tag :: tags)) :
    ∃ before inside, events = before ++ .openElement tag :: inside ∧ Balanced inside ∧
      before.foldlM openTags [] = .ok tags := by
  -- an element that ends leads back to the events before it, so the induction is on the length
  induction hn : events.length using Nat.strongRecOn generalizing events tag tags with
  | ind n ih =>
      subst hn
      rcases List.eq_nil_or_concat events with rfl | ⟨front, last, rfl⟩
      · cases h
      rw [List.concat_eq_append] at h ih ⊢
      rw [List.foldlM_append] at h
      cases hfront : front.foldlM openTags [] with
      | error reason => rw [hfront] at h; cases h
      | ok tags' =>
          have hlast : openTags tags' last = .ok (tag :: tags) := by
            have hsingle : [last].foldlM openTags tags' = openTags tags' last := by
              rw [List.foldlM_cons]
              cases openTags tags' last <;> rfl
            rw [hfront] at h
            exact hsingle.symm.trans h
          have hshort : front.length < (front ++ [last]).length := by simp
          -- an event that leaves the open elements alone belongs to the content
          have hkept (hlast' : Balanced [last]) (heq : tags' = tag :: tags) :
              ∃ before inside, front ++ [last] = before ++ .openElement tag :: inside ∧
                Balanced inside ∧ before.foldlM openTags [] = .ok tags := by
            rw [heq] at hfront
            obtain ⟨before, inside, rfl, hinside, hbefore⟩ := ih _ hshort hfront rfl
            exact ⟨before, inside ++ [last], by simp, hinside.append hlast', hbefore⟩
          rcases last with t | ⟨name, value⟩ | t | text
          · obtain ⟨rfl, rfl⟩ := List.cons.inj (Except.ok.inj hlast)
            exact ⟨front, [], rfl, .nil, hfront⟩
          · exact hkept (.setAttribute name value .nil) (Except.ok.inj hlast)
          · rw [openTags_closeElement_eq_ok hlast] at hfront
            obtain ⟨front, inner, rfl, hinner, hfront⟩ := ih _ hshort hfront rfl
            have hshorter : front.length <
                (front ++ openElement t :: inner ++ [closeElement t]).length := by
              simp only [List.length_append, List.length_cons]
              omega
            obtain ⟨before, inside, rfl, hinside, hbefore⟩ := ih _ hshorter hfront rfl
            exact ⟨before, inside ++ .openElement t :: (inner ++ [.closeElement t]), by simp,
              hinside.append (.element t hinner .nil), hbefore⟩
          · exact hkept (.text text .nil) (Except.ok.inj hlast)

end Event

end TwinRender
