import TwinRender.Markup.Node

/-!
# A tree under construction

While markup is read, the tree is a path of open elements. Each one holds the children finished
so far; the next open element inside it becomes its next child when it is closed. Two properties
of an open element say how it takes part in this.

* An element that is no longer `listed` cannot be closed by name any more. It is closed as soon as
  nothing is open inside it.
* An element that is `fostered` stands inside a table, where only rows and cells may stand. Its
  place in the tree is before that table. The table itself is still open, so the place before it
  is the end of the finished children of the element around it.

## Main definitions

* `Frame`, `Spine` — open elements and the path of them;
* `Spine.attach` — a finished node put into its place;
* `Spine.pop` — closing the innermost open element.
-/

namespace TwinRender.Markup

/-- The vocabulary an element belongs to. -/
inductive Vocabulary where
  /-- Ordinary markup. -/
  | html
  /-- Drawings. -/
  | svg
  /-- Formulas. -/
  | math
  deriving DecidableEq, Repr, Inhabited

/-- An open element. -/
structure Frame where
  /-- A number that tells it from all other elements. -/
  id : Nat
  /-- Its vocabulary. -/
  vocabulary : Vocabulary
  /-- Its name. -/
  name : String
  /-- Its attributes. -/
  attributes : OrderedMap String
  /-- Whether it can still be closed by name. -/
  listed : Bool
  /-- Whether its place is before the table it was found in. -/
  fostered : Bool
  /-- Its finished children, the last one first. -/
  children : List Node
  deriving Repr, Inhabited

namespace Frame

/-- Whether this is the ordinary element with a name. -/
def named (f : Frame) (name : String) : Bool :=
  f.vocabulary == .html && f.name == name

/-- Whether this is an ordinary element with one of the names. -/
def among (f : Frame) (names : List String) : Bool :=
  f.vocabulary == .html && names.contains f.name

/-- The finished element. What stands in a template is put into its fragment. -/
def finish (f : Frame) : Node :=
  .element f.name f.attributes
    (if f.named "template" then [.fragment f.children.reverse] else f.children.reverse)

end Frame

/-- Finished children, the last one first, after one more. Text joins text before it. -/
def pushChild (node : Node) (children : List Node) : List Node :=
  match node, children with
  | .text t, .text s :: rest => .text (s ++ t) :: rest
  | node, children => node :: children

/-- The open elements, innermost first, and the finished nodes outside all of them. -/
structure Spine where
  /-- The open elements, innermost first. -/
  frames : List Frame
  /-- The finished nodes outside all open elements, the last one first. -/
  roots : List Node
  deriving Repr, Inhabited

namespace Spine

/-- Open elements and outer nodes after a node is put into its place: at the end of the innermost
element or, fostered, before the innermost table. -/
def place (node : Node) (fostered : Bool) (frames : List Frame) (roots : List Node) :
    List Frame × List Node :=
  match fostered, frames with
  | _, [] => ([], pushChild node roots)
  | false, f :: fs => ({ f with children := pushChild node f.children } :: fs, roots)
  | true, f :: fs =>
    if f.listed && f.named "template" then
      ({ f with children := pushChild node f.children } :: fs, roots)
    else
      let (fs', roots') := place node (!(f.listed && f.named "table") || f.fostered) fs roots
      (f :: fs', roots')

/-- Placing a node neither opens nor closes an element. -/
theorem length_frames_place (node : Node) (fostered : Bool) (frames : List Frame)
    (roots : List Node) : (place node fostered frames roots).1.length = frames.length := by
  fun_induction place node fostered frames roots <;> simp_all

/-- A finished node put into its place. -/
def attach (s : Spine) (node : Node) (fostered : Bool) : Spine :=
  let (frames, roots) := place node fostered s.frames s.roots
  ⟨frames, roots⟩

/-- The spine after its innermost elements are closed as long as they are not listed. -/
def settle (frames : List Frame) (roots : List Node) : Spine :=
  match frames with
  | [] => ⟨[], roots⟩
  | f :: fs =>
    if f.listed then ⟨f :: fs, roots⟩
    else
      let placed := place f.finish f.fostered fs roots
      settle placed.1 placed.2
termination_by frames.length
decreasing_by simp [length_frames_place]

/-- The spine after its innermost element is closed. -/
def pop (s : Spine) : Spine :=
  match s.frames with
  | [] => s
  | f :: fs =>
    let placed := place f.finish f.fostered fs s.roots
    settle placed.1 placed.2

/-- Closing elements that are not listed opens none. -/
theorem length_frames_settle_le (frames : List Frame) (roots : List Node) :
    (settle frames roots).frames.length ≤ frames.length := by
  fun_induction settle frames roots with
  | case1 => simp
  | case2 => simp
  | case3 roots f fs _ placed ih =>
    have h : placed.1.length = fs.length := length_frames_place f.finish f.fostered fs roots
    simp only [List.length_cons]; omega

/-- Closing an element leaves fewer open. -/
theorem length_frames_pop_lt {s : Spine} (h : s.frames ≠ []) :
    s.pop.frames.length < s.frames.length := by
  unfold pop
  split
  · contradiction
  · next f fs hf =>
    rw [hf]
    have := length_frames_settle_le (place f.finish f.fostered fs s.roots).1
      (place f.finish f.fostered fs s.roots).2
    rw [length_frames_place] at this
    simp only [List.length_cons]; omega

/-- The open elements that can be closed by name, innermost first. -/
def listed (s : Spine) : List Frame :=
  s.frames.filter Frame.listed

/-- The innermost open element. -/
def current? (s : Spine) : Option Frame :=
  s.frames.head?

/-- The spine after one more element is opened. -/
def push (s : Spine) (f : Frame) : Spine :=
  ⟨f :: s.frames, s.roots⟩

/-- Closes elements as long as the innermost one satisfies a condition. -/
def popWhile (p : Frame → Bool) (s : Spine) : Spine :=
  match h : s.frames with
  | [] => s
  | f :: _ =>
    have := length_frames_pop_lt (s := s) (by simp [h])
    if p f then popWhile p s.pop else s
termination_by s.frames.length

/-- Closes elements up to the first one that satisfies a condition, that one included. -/
def popThrough (p : Frame → Bool) (s : Spine) : Spine :=
  (s.popWhile fun f => !p f).pop

/-- The spine in which an element can no longer be closed by name. -/
def unlist (s : Spine) (id : Nat) : Spine :=
  settle (s.frames.map fun f => if f.id == id then { f with listed := false } else f) s.roots

/-- Whether the innermost listed element that is a target is found before any that stops the
search. -/
def inScope (stops target : Frame → Bool) (s : Spine) : Bool :=
  (s.listed.find? fun f => target f || stops f).any target

/-- The finished nodes after everything is closed. -/
def finish (s : Spine) : List Node :=
  (s.popWhile fun _ => true).roots.reverse

end Spine

end TwinRender.Markup
