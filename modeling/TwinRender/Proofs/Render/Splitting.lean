import TwinRender.Proofs.Render.Writer
import TwinRender.Render.Tree

/-!
# Texts that are given out in parts

A program may give out a run of text at once or in parts, some of which may be empty. What the
parts do to the tree and to the writer is what the whole text does, in every state that the writer
can be in; only there are more boundaries in what is written, one behind each part.

## Main definitions

* `Event.Splits`: events with their texts in parts.
* `Piece.Refines`: the same markup with more boundaries.
* `Chunks.offsets`: the places in the markup at which chunks end.
* `Chunks.Finer`: chunks of the same markup that end at more places.

## Main results

* `TreeBuilder.foldlM_splits`: the tree does not depend on the parts.
* `Writer.feed_splits`: the markup does not depend on the parts, and every boundary is kept.
* `Chunks.offsets_subset`: chunks of the same markup with more boundaries end at more places.
-/

namespace TwinRender

/-- Events, and the same events with some of their texts given out in parts. -/
inductive Event.Splits : List Event → List Event → Prop where
  /-- No events. -/
  | nil : Splits [] []
  /-- The same event on both sides. -/
  | cons (e : Event) {a b : List Event} (h : Splits a b) : Splits (e :: a) (e :: b)
  /-- The beginning of a text is given out before the rest of it. -/
  | cut (s t : String) {a b : List Event} (h : Splits (.text t :: a) b) :
    Splits (.text (s ++ t) :: a) (.text s :: b)

namespace Event.Splits

/-- Events may be left as they are. -/
theorem refl (a : List Event) : Splits a a := by
  induction a with
  | nil => exact .nil
  | cons e a ih => exact .cons e ih

/-- Events one behind the other. -/
theorem append {a b c d : List Event} (h : Splits a b) (h' : Splits c d) :
    Splits (a ++ c) (b ++ d) := by
  induction h with
  | nil => exact h'
  | cons e _ ih => exact .cons e ih
  | cut s t _ ih => exact .cut s t ih

/-- Some parts may come before the others. -/
theorem texts (parts : List String) {s : String} {a b : List Event}
    (h : Splits (.text s :: a) b) :
    Splits (.text (String.join parts ++ s) :: a) (parts.map Event.text ++ b) := by
  induction parts with
  | nil => rwa [String.join_nil, String.empty_append]
  | cons part parts ih =>
      rw [String.join_cons, String.append_assoc]
      exact .cut part _ ih

end Event.Splits

/-! ### The tree -/

/-- A text behind a text becomes part of it. -/
theorem VNode.push_text_push_text (siblings : List VNode) (s t : String) :
    push (push siblings (.text s)) (.text t) = push siblings (.text (s ++ t)) := by
  rcases siblings with _ | ⟨_ | before, rest⟩
  · rfl
  · rfl
  · simp only [push, String.append_assoc]

namespace TreeBuilder

/-- A text in two parts is the text. -/
theorem push_text_push_text (b : TreeBuilder) (s t : String) :
    (b.push (.text s)).push (.text t) = b.push (.text (s ++ t)) := by
  obtain ⟨roots, _ | ⟨e, es⟩⟩ := b
  · simp only [push, VNode.push_text_push_text]
  · simp only [push, VNode.push_text_push_text]

/-- **The tree does not depend on the parts of texts.** -/
theorem foldlM_splits {a c : List Event} (h : Event.Splits a c) (b : TreeBuilder) :
    a.foldlM step b = c.foldlM step b := by
  induction h generalizing b with
  | nil => rfl
  | cons e _ ih =>
      rw [List.foldlM_cons, List.foldlM_cons]
      cases b.step e with
      | error reason => rfl
      | ok next => exact ih next
  | @cut s t a c _ ih =>
      have hrest := ih (b.push (.text s))
      rw [List.foldlM_cons] at hrest ⊢
      rw [List.foldlM_cons]
      change a.foldlM step (b.push (.text (s ++ t))) = c.foldlM step (b.push (.text s))
      rw [← push_text_push_text]
      exact hrest

end TreeBuilder

/-! ### Boundaries -/

namespace Piece

/-- The places in the markup at which there is a boundary, in bytes. -/
def boundaries : List Piece → List Nat
  | [] => []
  | .markup text :: rest => (boundaries rest).map (text.utf8ByteSize + ·)
  | .boundary :: rest => 0 :: boundaries rest

/-- Boundaries of streams one behind the other. -/
theorem boundaries_append (a b : List Piece) :
    boundaries (a ++ b) = boundaries a ++ (boundaries b).map ((join a).utf8ByteSize + ·) := by
  induction a with
  | nil => simp [boundaries]
  | cons p a ih =>
      cases p with
      | markup text =>
          simp [boundaries, ih, String.utf8ByteSize_append, Function.comp_def, Nat.add_assoc]
      | boundary => simp [boundaries, ih]

/-- The second stream is the same markup as the first one, and has all its boundaries. -/
structure Refines (a b : List Piece) : Prop where
  /-- The markup is the same. -/
  join_eq : join a = join b
  /-- There are all the boundaries. -/
  subset : boundaries a ⊆ boundaries b

namespace Refines

variable {a b c d : List Piece}

/-- A stream has its own boundaries. -/
theorem refl (a : List Piece) : Refines a a := ⟨rfl, List.Subset.refl _⟩

/-- Boundaries may be added twice. -/
theorem trans (h : Refines a b) (h' : Refines b c) : Refines a c :=
  ⟨h.join_eq.trans h'.join_eq, List.Subset.trans h.subset h'.subset⟩

/-- Streams one behind the other. -/
theorem append (h : Refines a b) (h' : Refines c d) : Refines (a ++ c) (b ++ d) := by
  refine ⟨?_, ?_⟩
  · rw [join_append, join_append, h.join_eq, h'.join_eq]
  · rw [boundaries_append, boundaries_append, h.join_eq]
    exact List.append_subset.mpr ⟨List.subset_append_of_subset_left _ h.subset,
      List.subset_append_of_subset_right _ (List.map_subset _ h'.subset)⟩

end Refines

end Piece

/-! ### The writer -/

namespace Writer

/-- The writer behind a text. -/
def afterText (w : Writer) (s : String) : Writer :=
  if s.isEmpty then { w with tagPending := false, placeholderPending := !w.runHasText }
  else { w.betweenRuns with runHasText := true }

/-- What is written for a text, with the line feed before it. -/
def textMarkup (w : Writer) (s : String) : String :=
  if s.isEmpty then "" else w.newline s ++ Markup.characterData w.inRawText s

/-- A text ends the start tag before it, is written, and is followed by a boundary. -/
theorem step_text (w : Writer) (s : String) :
    ∃ pieces, w.step (.text s) = .ok (w.afterText s, pieces) ∧
      Piece.join pieces = Piece.join w.endOfTag ++ w.textMarkup s ∧
      Piece.boundaries pieces = [(Piece.join pieces).utf8ByteSize] := by
  have hend (pieces : List Piece) (h : Piece.boundaries pieces = []) :
      Piece.boundaries (pieces ++ [.boundary]) =
        [(Piece.join (pieces ++ [.boundary])).utf8ByteSize] := by
    simp [Piece.boundaries_append, Piece.join_append, h, Piece.boundaries]
  have htag : Piece.boundaries w.endOfTag = [] := by
    rw [endOfTag]
    split <;> rfl
  by_cases hs : s.isEmpty = true
  · refine ⟨w.endOfTag ++ [.boundary], by simp only [step, afterText, hs, if_true], ?_,
      hend _ htag⟩
    simp [textMarkup, hs, Piece.join_append]
  · rw [Bool.not_eq_true] at hs
    refine ⟨(w.endOfTag ++ (if w.atLeadingNewline && s.toList.head? == some '\n' then
      [.markup "\n"] else []) ++ [.markup (Markup.characterData w.inRawText s)]) ++ [.boundary],
      ?_, ?_, hend _ ?_⟩
    · simp [step, afterText, hs, Markup.characterData]
    · simp only [Piece.join_append, textMarkup, hs, newline]
      split <;> simp [String.append_assoc]
    · rw [Piece.boundaries_append, Piece.boundaries_append, htag]
      split <;> rfl

/-- The writer behind a text in two parts. -/
theorem afterText_append (w : Writer) (s t : String) :
    (w.afterText s).afterText t = w.afterText (s ++ t) := by
  by_cases hs : s = ""
  · subst hs
    by_cases ht : t.isEmpty = true <;> simp [afterText, ht, betweenRuns]
  · have hs' : s.isEmpty = false := String.isEmpty_eq_false_iff.mpr hs
    have hst : (s ++ t).isEmpty = false := by
      rw [String.isEmpty_eq_false_iff, ne_eq, String.append_eq_empty_iff, not_and]
      exact fun h => absurd h hs
    by_cases ht : t.isEmpty = true <;> simp [afterText, hs', hst, ht, betweenRuns]

/-- What is written for a text in two parts. -/
theorem textMarkup_append (w : Writer) (s t : String) :
    w.textMarkup (s ++ t) = w.textMarkup s ++ (w.afterText s).textMarkup t := by
  have hraw : (w.afterText s).inRawText = w.inRawText := by
    rw [afterText]
    split <;> rfl
  by_cases hs : s = ""
  · subst hs
    have hnewline : (w.afterText "").newline t = w.newline t := rfl
    simp [textMarkup, hraw, hnewline]
  · have hs' : s.isEmpty = false := String.isEmpty_eq_false_iff.mpr hs
    have hst : (s ++ t).isEmpty = false := by
      rw [String.isEmpty_eq_false_iff, ne_eq, String.append_eq_empty_iff, not_and]
      exact fun h => absurd h hs
    have hhead : w.newline (s ++ t) = w.newline s := by
      rw [newline, newline, String.toList_append, List.head?_append_of_ne_nil _ (by simpa using hs)]
    -- the line feed is written before the first part with content
    have hlater : (w.afterText s).newline t = "" := by simp [afterText, hs', betweenRuns, newline]
    by_cases ht : t = ""
    · simp [ht, textMarkup]
    · have ht' : t.isEmpty = false := String.isEmpty_eq_false_iff.mpr ht
      simp [textMarkup, hraw, hs', hst, ht', hhead, hlater, Markup.characterData_append,
        String.append_assoc]

/-- A text in two parts is written as the text is, with one boundary more. -/
theorem step_text_append (w : Writer) (s t : String) :
    ∃ whole first second, w.step (.text (s ++ t)) = .ok (w.afterText (s ++ t), whole) ∧
      w.step (.text s) = .ok (w.afterText s, first) ∧
      (w.afterText s).step (.text t) = .ok (w.afterText (s ++ t), second) ∧
      Piece.Refines whole (first ++ second) := by
  obtain ⟨whole, hwhole, hwholeJoin, hwholeEnd⟩ := w.step_text (s ++ t)
  obtain ⟨first, hfirst, hfirstJoin, -⟩ := w.step_text s
  obtain ⟨second, hsecond, hsecondJoin, hsecondEnd⟩ := (w.afterText s).step_text t
  rw [afterText_append] at hsecond
  have htag : Piece.join (w.afterText s).endOfTag = "" := by
    rw [afterText]
    split <;> rfl
  have hjoin : Piece.join whole = Piece.join (first ++ second) := by
    rw [Piece.join_append, hwholeJoin, hfirstJoin, hsecondJoin, htag, String.empty_append,
      textMarkup_append, String.append_assoc]
  refine ⟨whole, first, second, hwhole, hfirst, hsecond, hjoin, ?_⟩
  rw [hwholeEnd, Piece.boundaries_append, hsecondEnd, hjoin, Piece.join_append,
    String.utf8ByteSize_append]
  simp

/-- **The markup does not depend on the parts of texts**, and neither does the writer behind it or
its failure; every boundary behind a text is a boundary behind its last part. -/
theorem feed_splits {a b : List Event} (h : Event.Splits a b) (w : Writer) :
    Piece.Refines (w.feed a).1 (w.feed b).1 ∧ (w.feed a).2 = (w.feed b).2 := by
  induction h generalizing w with
  | nil => exact ⟨.refl _, rfl⟩
  | cons e _ ih =>
      rw [feed, feed]
      cases w.step e with
      | error reason => exact ⟨.refl _, rfl⟩
      | ok result =>
          obtain ⟨next, pieces⟩ := result
          exact ⟨(Piece.Refines.refl pieces).append (ih next).1, (ih next).2⟩
  | cut s t _ ih =>
      obtain ⟨whole, first, second, hwhole, hfirst, hsecond, hrefines⟩ := w.step_text_append s t
      obtain ⟨hpieces, hstate⟩ := ih (w.afterText s)
      rw [feed, hsecond] at hpieces hstate
      rw [feed, feed, hwhole, hfirst]
      refine ⟨?_, hstate⟩
      have hlater := (Piece.Refines.refl first).append hpieces
      rw [← List.append_assoc] at hlater
      exact (hrefines.append (.refl _)).trans hlater

end Writer

/-! ### Chunks -/

namespace Chunks

/-- The places in the markup at which chunks end, in bytes. -/
def offsets : List String → List Nat
  | [] => []
  | chunk :: rest => chunk.utf8ByteSize :: (offsets rest).map (chunk.utf8ByteSize + ·)

/-- The ends of chunks with one more behind them. -/
theorem offsets_concat (chunks : List String) (chunk : String) :
    offsets (chunks ++ [chunk]) =
      offsets chunks ++ [(String.join (chunks ++ [chunk])).utf8ByteSize] := by
  induction chunks with
  | nil => simp [offsets, String.join_cons]
  | cons first rest ih =>
      simp [offsets, ih, String.join_cons, String.utf8ByteSize_append]

/-- The last chunk ends behind all of them. -/
theorem mem_offsets_join {chunks : List String} (h : 0 < (String.join chunks).utf8ByteSize) :
    (String.join chunks).utf8ByteSize ∈ offsets chunks := by
  rcases List.eq_nil_or_concat chunks with rfl | ⟨before, last, rfl⟩
  · exact absurd h (by decide)
  · rw [List.concat_eq_append, offsets_concat]
    exact List.mem_append_right _ (List.mem_singleton_self _)

/-- All that has been written. -/
def markup (c : Chunks) : String := String.join c.complete ++ c.current

/-- A cut leaves the markup as it is. -/
theorem join_cut (c : Chunks) : String.join c.cut.complete = c.markup ∧ c.cut.current = "" := by
  rw [cut, markup]
  by_cases h : c.current.isEmpty = true
  · have hcurrent := String.isEmpty_iff.mp h
    rw [if_pos h, hcurrent, String.append_empty]
    exact ⟨rfl, rfl⟩
  · rw [if_neg h]
    exact ⟨by rw [String.join_append, String.join_cons, String.join_nil, String.append_empty], rfl⟩

/-- A chunk ends at a cut, unless nothing has been written. -/
theorem mem_offsets_cut (c : Chunks) (n : Nat) :
    n ∈ offsets c.cut.complete ↔ n ∈ offsets c.complete ∨ 0 < n ∧ n = c.markup.utf8ByteSize := by
  rw [cut, markup]
  by_cases h : c.current.isEmpty = true
  · rw [if_pos h, String.isEmpty_iff.mp h, String.append_empty]
    refine ⟨Or.inl, ?_⟩
    rintro (hn | ⟨hpos, rfl⟩)
    · exact hn
    · exact mem_offsets_join hpos
  · have hcurrent : 0 < c.current.utf8ByteSize := by
      rw [Nat.pos_iff_ne_zero, ne_eq, String.utf8ByteSize_eq_zero_iff, ← String.isEmpty_iff]
      exact h
    rw [if_neg h, offsets_concat, List.mem_append, List.mem_singleton, String.join_append,
      String.join_cons, String.join_nil, String.append_empty, String.utf8ByteSize_append]
    exact or_congr_right ⟨fun hn => ⟨by omega, hn⟩, And.right⟩

/-- Chunks with one more piece behind them. -/
theorem ofPieces_concat (pieces : List Piece) (p : Piece) :
    ofPieces (pieces ++ [p]) = (ofPieces pieces).push p := by
  rw [ofPieces, List.foldl_append]
  rfl

/-- What has been written is the markup of the pieces. -/
theorem markup_ofPieces (pieces : List Piece) : (ofPieces pieces).markup = Piece.join pieces := by
  induction pieces using List.reverseRecOn with
  | nil => rfl
  | append_singleton pieces p ih =>
      rw [ofPieces_concat, Piece.join_append, ← ih]
      cases p with
      | markup text => simp [push, markup, String.append_assoc]
      | boundary => simp [push, markup, join_cut]

/-- The complete chunks end at the boundaries. -/
theorem mem_offsets_ofPieces (pieces : List Piece) (n : Nat) :
    n ∈ offsets (ofPieces pieces).complete ↔ 0 < n ∧ n ∈ Piece.boundaries pieces := by
  induction pieces using List.reverseRecOn with
  | nil => simp [ofPieces, empty, offsets, Piece.boundaries]
  | append_singleton pieces p ih =>
      rw [ofPieces_concat, Piece.boundaries_append]
      cases p with
      | markup text => simp [push, ih, Piece.boundaries]
      | boundary =>
          rw [push, mem_offsets_cut, ih, markup_ofPieces]
          simp [Piece.boundaries, and_or_left]

/-- The chunks of a stream are its markup. -/
theorem join_finish (pieces : List Piece) :
    String.join (ofPieces pieces).finish = Piece.join pieces := by
  rw [finish, (join_cut _).1, markup_ofPieces]

/-- **Chunks of the same markup with more boundaries end at more places.** -/
theorem offsets_subset {a b : List Piece} (h : Piece.Refines a b) :
    offsets (ofPieces a).finish ⊆ offsets (ofPieces b).finish := by
  intro n hn
  rw [finish, mem_offsets_cut, mem_offsets_ofPieces, markup_ofPieces] at hn ⊢
  rw [← h.join_eq]
  exact hn.imp_left fun hn => ⟨hn.1, h.subset hn.2⟩

end Chunks

/-! ### Runs -/

/-- The second run comes to the same as the first one, with texts given out in parts. -/
structure Run.Splits (r r' : Run) : Prop where
  /-- The events are the same but for the parts. -/
  events : Event.Splits r.events r'.events
  /-- The runs end alike. -/
  state : r.state = r'.state

namespace Run.Splits

variable {r r' : Run}

/-- The tree is the same. -/
theorem tree_eq (h : r.Splits r') : r.tree = r'.tree := by
  rw [Run.tree, Run.tree, TreeBuilder.foldlM_splits h.events, h.state]

/-- The stream has the same markup with more boundaries, and the same failure. -/
theorem stream (h : r.Splits r') :
    Piece.Refines r.stream.1 r'.stream.1 ∧ r.stream.2 = r'.stream.2 := by
  obtain ⟨hpieces, hwriter⟩ := Writer.feed_splits h.events .start
  rw [Run.stream, Run.stream, ← h.state]
  rcases hr : Writer.start.feed r.events with ⟨pieces, result⟩
  rcases hr' : Writer.start.feed r'.events with ⟨pieces', result'⟩
  rw [hr, hr'] at hpieces hwriter
  obtain rfl : result = result' := hwriter
  cases result with
  | error reason => exact ⟨hpieces, rfl⟩
  | ok w =>
      cases r.state with
      | error reason => exact ⟨hpieces, rfl⟩
      | ok _ => exact ⟨hpieces.append (.refl _), rfl⟩

end Run.Splits

/-! ### Results -/

/-- Two results of rendering in chunks: the same failure, or chunks of the same markup, of which the
second ones end wherever the first ones do. -/
inductive Chunks.Finer :
    Except RenderError (List String) → Except RenderError (List String) → Prop where
  /-- The same failure. -/
  | failed (e : RenderError) : Finer (.error e) (.error e)
  /-- The same markup. -/
  | cut {coarse fine : List String} (hjoin : String.join coarse = String.join fine)
    (hoffsets : offsets coarse ⊆ offsets fine) : Finer (.ok coarse) (.ok fine)

/-- Streams with the same markup and the same failure, of which the second has more boundaries. -/
theorem Chunks.finer_streamed {s s' : List Piece × Option RenderError}
    (h : Piece.Refines s.1 s'.1) (hfailure : s.2 = s'.2) :
    streamed Piece.join s = streamed Piece.join s' ∧
      Finer (streamed (fun pieces => (ofPieces pieces).finish) s)
        (streamed (fun pieces => (ofPieces pieces).finish) s') := by
  obtain ⟨pieces, failure⟩ := s
  obtain ⟨pieces', failure'⟩ := s'
  obtain rfl : failure = failure' := hfailure
  cases failure with
  | some e => exact ⟨rfl, .failed e⟩
  | none =>
      refine ⟨congrArg Except.ok h.join_eq, .cut ?_ (offsets_subset h)⟩
      rw [join_finish, join_finish]
      exact h.join_eq

/-- The chunks of a program are its markup. -/
theorem map_join_renderChunks (p : Program) (scope : Scope) :
    (renderChunks p scope).map String.join = renderToString p scope := by
  rw [renderChunks, renderToString]
  rcases stream p scope with ⟨pieces, _ | e⟩
  · exact congrArg Except.ok (Chunks.join_finish pieces)
  · rfl

end TwinRender
