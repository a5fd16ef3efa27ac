import TwinRender.Markup.Builder

/-!
# Formatting elements

Formatting survives the block it was opened in: what is still open when a block ends is opened
again in the next one, and an end tag that cuts across blocks splits the element so that each
block holds its own part. The list of formatting elements remembers what is to be opened again.

## Main definitions

* `Builder.reopen` — opens again what the end of a block has closed;
* `Builder.insertFormatting` — a formatting element;
* `Builder.adopt` — the end tag of a formatting element.
-/

namespace TwinRender.Markup

namespace Builder

/-- Whether two tags say the same, whatever the order of their attributes. -/
def sameTag (a b : Tag) : Bool :=
  a.name == b.name && a.attributes.length == b.attributes.length &&
    a.attributes.all b.attributes.contains

/-- Opens elements again, the last entry of the list first, and gives the entries for them. -/
def reopenEntries (b : Builder) : List Entry → List Entry × Builder
  | [] => ([], b)
  | .marker :: es =>
    let (es, b) := b.reopenEntries es
    (.marker :: es, b)
  | .element _ tag :: es =>
    let (es, b) := b.reopenEntries es
    (.element b.fresh tag :: es, b.insert tag)

/-- Whether an entry ends the elements to be opened again. -/
def settled (b : Builder) : Entry → Bool
  | .marker => true
  | .element id _ => b.isOpen id

/-- The state after the formatting elements that are not open any more are opened again. -/
def reopen (b : Builder) : Builder :=
  let pending := b.formatting.takeWhile fun e => !b.settled e
  let kept := b.formatting.dropWhile fun e => !b.settled e
  let (entries, b) := b.reopenEntries pending
  { b with formatting := entries ++ kept }

/-- The entries after one more. Of four equal ones since the last marker, the first is dropped. -/
def pushEntry (id : Nat) (tag : Tag) (entries : List Entry) : List Entry :=
  let recent := entries.takeWhile (· != .marker)
  let alike := recent.filter fun
    | .element _ t => sameTag tag t
    | .marker => false
  match if 3 ≤ alike.length then alike.getLast? else none with
  | some oldest => .element id tag :: entries.erase oldest
  | none => .element id tag :: entries

/-- The state after a formatting element is opened. -/
def insertFormatting (b : Builder) (tag : Tag) : Builder :=
  { b.insert tag with formatting := pushEntry b.fresh tag b.formatting }

/-- The last formatting element with a name since the last marker. -/
def formattingNamed? (b : Builder) (name : String) : Option (Nat × Tag) :=
  (b.formatting.takeWhile (· != .marker)).findSome? fun
    | .element id tag => if tag.name == name then some (id, tag) else none
    | .marker => none

/-- The tag of the formatting element with a number. -/
def formattingTag? (b : Builder) (id : Nat) : Option Tag :=
  b.formatting.findSome? fun
    | .element other tag => if other == id then some tag else none
    | .marker => none

/-- The state in which a formatting element is forgotten. -/
def forget (b : Builder) (id : Nat) : Builder :=
  { b with formatting := b.formatting.filter fun
      | .element other _ => other != id
      | .marker => true }

/-- The entries with the one of a number replaced by others. -/
def replaceEntry (id : Nat) (new : List Entry) (entries : List Entry) : List Entry :=
  entries.flatMap fun
    | .element other tag => if other == id then new else [.element other tag]
    | .marker => [.marker]

/-- A new element made from the tag of a formatting element. -/
def frameOf (id : Nat) (tag : Tag) (children : List Node) : Frame :=
  { id, vocabulary := .html, name := tag.name, attributes := .ofList tag.attributes,
    listed := true, fostered := false, children }

/-- The formatting elements between a block and the element that is split are opened again around
the block, the three nearest ones at most. Given are the open elements between the two, innermost
first; the new ones come in the same order. -/
def cloneBetween (b : Builder) (count : Nat) : List Frame → List Frame × Builder
  | [] => ([], b)
  | f :: fs =>
    if !f.listed then b.cloneBetween count fs
    else
      match b.formattingTag? f.id with
      | none => b.cloneBetween (count + 1) fs
      | some tag =>
        if 3 ≤ count then (b.forget f.id).cloneBetween (count + 1) fs
        else
          let id := b.fresh
          let b := { b with
            fresh := id + 1
            formatting := replaceEntry f.id [.element id tag] b.formatting }
          let (clones, b) := b.cloneBetween (count + 1) fs
          (frameOf id tag [] :: clones, b)

/-- Marks the last element of a list, the outermost one, as fostered or not. -/
def fosterLast (fostered : Bool) : List Frame → List Frame
  | [] => []
  | [f] => [{ f with fostered }]
  | f :: fs => f :: fosterLast fostered fs

/-- Splits a formatting element around a block that is open inside it: the element is closed
before the block, the block moves behind it, and a new element of the same kind takes over what
the block holds. -/
def split (b : Builder) (id : Nat) (tag : Tag) (block : Frame) : Builder :=
  let inner := b.spine.frames.takeWhile fun f => f.id != block.id
  let outer := (b.spine.frames.dropWhile fun f => f.id != block.id).drop 1
  let (clones, b) := b.cloneBetween 0 (outer.takeWhile fun f => f.id != id)
  let new := b.fresh
  let formatting := match clones with
    | [] => replaceEntry id [.element new tag] b.formatting
    | nearest :: _ =>
      replaceEntry id [] <| b.formatting.flatMap fun
        | .element other t =>
          if other == nearest.id then [.element new tag, .element other t] else [.element other t]
        | .marker => [.marker]
  let base := Spine.popThrough (fun f => f.id == id) ⟨outer, b.spine.roots⟩
  let b := { b with spine := base, fresh := new + 1, formatting }
  let moved := fosterLast b.fosters
    ({ block with children := [], fostered := false } :: clones)
  { b with
    spine := ⟨inner ++ frameOf new tag block.children :: (moved ++ base.frames), base.roots⟩ }

/-- At most `rounds` times, closes the last formatting element with a name, splitting it around
the outermost block open inside it. -/
def adoptRounds (name : String) : Nat → Builder → Builder
  | 0, b => b
  | rounds + 1, b =>
    match b.formattingNamed? name with
    | none => b.closeOrdinary name
    | some (id, tag) =>
      if !b.isOpen id then b.recover.forget id
      else if !b.spine.inScope stopsDefault fun f => f.id == id then b.recover
      else
        let b := b.recoverIf !(b.spine.current?.any fun f => f.id == id)
        let inside := b.spine.listed.takeWhile fun f => f.id != id
        match (inside.filter isSpecial).getLast? with
        | none => { b with spine := b.spine.popThrough fun f => f.id == id }.forget id
        | some block => adoptRounds name rounds (b.split id tag block)

/-- The state after the end tag of a formatting element. -/
def adopt (b : Builder) (name : String) : Builder :=
  match b.spine.current? with
  | some f =>
    if f.named name && (b.formattingTag? f.id).isNone then b.pop else adoptRounds name 8 b
  | none => adoptRounds name 8 b

/-- The state after a formatting element is neither listed as such nor open any more. -/
def drop (b : Builder) (id : Nat) : Builder :=
  let b := b.forget id
  { b with spine := b.spine.unlist id }

end Builder

end TwinRender.Markup
