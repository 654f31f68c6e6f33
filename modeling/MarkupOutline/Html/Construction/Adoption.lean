import MarkupOutline.Html.Construction.Basic

/-!
# Ends of formatting elements

An end tag may finish a formatting element while blocks opened inside of it are still open, as in
`<b>one<p>two</b>three`. The formatting element is then finished where it stands, and the outermost
of those blocks takes its place: formatting elements between the two are opened again around the
block, what the block contains so far goes into a new copy of the formatting element inside of it,
and the block goes on behind that copy.
-/

namespace MarkupOutline.Html

/-- What becomes of the elements between a formatting element and a block inside of it. -/
structure Regrouping where
  /-- The formatting in effect. -/
  formatting : List Formatting
  /-- A number that no element has. -/
  fresh : Nat
  /-- The elements opened again, innermost first. -/
  reopened : List Frame := []
  deriving Repr

namespace Regrouping

/-- One more element, the `position`-th outwards from the block. It is opened again if it is among
the formatting in effect and one of the three nearest to the block, and dropped otherwise. -/
def take (r : Regrouping) (position : Nat) (f : Frame) : Regrouping :=
  match r.formatting.find? (·.hasId f.id) with
  | some (.element _ name attributes) =>
    -- Only the three elements nearest to the block are opened again.
    if 3 < position then { r with formatting := r.formatting.filter fun e => !e.hasId f.id }
    else
      let entry := Formatting.element r.fresh name attributes
      { formatting := r.formatting.map fun e => if e.hasId f.id then entry else e
        fresh := r.fresh + 1
        reopened := r.reopened ++ [{ id := r.fresh, name, attributes }] }
  | _ => r

/-- All the elements, the nearest to the block first. -/
def takeAll (r : Regrouping) (frames : List Frame) : Regrouping :=
  (frames.zipIdx 1).foldl (fun r (f, position) => r.take position f) r

/-- The formatting in effect once the formatting element `old` has been replaced by `entry`: in its
place, or behind the element opened again nearest to the block. -/
def replace (r : Regrouping) (old : Nat) (entry : Formatting) : List Formatting :=
  match r.reopened with
  | [] => r.formatting.map fun e => if e.hasId old then entry else e
  | nearest :: _ =>
    (r.formatting.filter fun e => !e.hasId old).flatMap fun e =>
      if e.hasId nearest.id then [entry, e] else [e]

end Regrouping

/-- The outermost frame of a list marked as fostered or not. -/
def markLast (fostered : Bool) : List Frame → List Frame
  | [] => []
  | [f] => [{ f with fostered }]
  | f :: g :: below => f :: markLast fostered (g :: below)

namespace Construction

/-- The block inside a formatting element put in its place. -/
def adoptBlock (id : Nat) (name : String) (attributes : List (String × String)) (blockId : Nat)
    (c : Construction) : Construction :=
  let (inside, fromBlock) := c.stack.span fun f => f.id ≠ blockId
  match fromBlock with
  | [] => c
  | block :: fromBetween =>
    -- Everything between the block and the formatting element, and that element itself, is
    -- finished as it stands.
    let between := fromBetween.takeWhile fun f => f.id ≠ id
    let outer := (Stack.close (between.length + 1) fromBetween).settle
    let regrouped :=
      Regrouping.takeAll ⟨c.formatting, c.fresh, []⟩ (between.filter (·.isOpen))
    -- The copy takes over what the block contains so far, and the block begins anew around it.
    let copy : Frame :=
      { id := regrouped.fresh, name, attributes, text := block.text, children := block.children }
    let emptied := { block with text := "", children := [], fostered := false }
    -- The outermost frame put back goes in front of the table if a table part is around it.
    let displaced := c.fostering && outer.head?.any Frame.isTablePart
    { c with
      stack := inside ++ copy :: markLast displaced (emptied :: regrouped.reopened) ++ outer
      formatting := regrouped.replace id (.element copy.id name attributes)
      fresh := regrouped.fresh + 1 }

/-- The end of the latest formatting element of a given name, as often as blocks make necessary,
but no more than a number of times. -/
def endFormattingTimes : Nat → String → Construction → Construction
  | 0, _, c => c
  | times + 1, name, c =>
    match c.recentFormatting.find? (·.hasName name) with
    | none | some .marker => c.closeNamed name
    | some (.element id _ attributes) =>
      if !c.stack.isOpen id then c.dropFormatting id
      else if !c.stack.hasWithin scopeBoundary (fun f => f.id = id) then c
      else
        let inside := (c.stack.takeWhile fun f => f.id ≠ id).filter fun f => f.isOpen && f.isSpecial
        -- The outermost block is the last one, since frames are listed from the inside.
        match inside.getLast? with
        | none => (c.onStack (Stack.popThrough fun f => f.id = id)).dropFormatting id
        | some block => endFormattingTimes times name (c.adoptBlock id name attributes block.id)

/-- The end of the latest formatting element of a given name. -/
def endFormatting (name : String) (c : Construction) : Construction :=
  match c.current? with
  | some f =>
    if f.isHtml name && !c.formatting.any (·.hasId f.id) then c.closeCurrent
    else endFormattingTimes 8 name c
  | none => c

end Construction

end MarkupOutline.Html
