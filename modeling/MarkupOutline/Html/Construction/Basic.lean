import MarkupOutline.Html.Frame

/-!
# Construction of a fragment

The state in which tokens are taken up one after the other, and the steps that the rules are made
of: inserting elements, text and comments, and keeping track of formatting.

Formatting elements, such as `b` or `a`, go on past the end of the block they were opened in. The
state lists those in effect, the latest first, and a later block opens them again. Markers in the
list keep formatting from reaching into table cells and a few other elements.
-/

namespace MarkupOutline.Html

/-- An entry of the list of formatting in effect. -/
inductive Formatting where
  /-- Formatting behind this entry does not reach in front of it. -/
  | marker
  /-- A formatting element, with what is needed to open it again. -/
  | element (id : Nat) (name : String) (attributes : List (String × String))
  deriving DecidableEq, Repr

namespace Formatting

/-- Whether the entry is a marker. -/
def isMarker : Formatting → Bool
  | marker => true
  | element .. => false

/-- Whether the entry is that of an element. -/
def hasId (id : Nat) : Formatting → Bool
  | marker => false
  | element other _ _ => other = id

/-- Whether the entry is one of an element with a given name. -/
def hasName (name : String) : Formatting → Bool
  | marker => false
  | element _ other _ => other = name

/-- Whether two entries open elements with the same name and the same attributes, in any order. -/
def sameElement : Formatting → Formatting → Bool
  | element _ name attributes, element _ name' attributes' =>
    name = name' && attributes.length = attributes'.length &&
      attributes.all fun a => attributes'.contains a
  | _, _ => false

end Formatting

/-- What the construction is occupied with, which decides how a token is taken up. -/
inductive Mode where
  | body
  | text
  | table
  | tableText
  | caption
  | columnGroup
  | tableBody
  | row
  | cell
  | select
  | selectInTable
  deriving DecidableEq, Repr

/-- The state of construction between two tokens. -/
structure Construction where
  /-- The open elements. -/
  stack : Stack
  /-- The formatting in effect, the latest first. -/
  formatting : List Formatting := []
  mode : Mode := .body
  /-- The mode to go back to after text. -/
  returnMode : Mode := .body
  /-- Text directly inside a table that has not been placed yet. -/
  pending : List Char := []
  /-- The form that is open. -/
  form : Option Nat := none
  /-- A number that no element has. -/
  fresh : Nat := 1
  /-- Content directly inside a table goes in front of it. -/
  fostering : Bool := false
  /-- A line feed at the start of the next token is left out. -/
  dropNewline : Bool := false
  /-- How the text behind the last token is read. -/
  model : ContentModel := .data
  deriving Repr

namespace Construction

/-- Nothing taken up yet. -/
def start : Construction := { stack := [{ id := 0, name := "html" }] }

/-- A change to the open elements. -/
def onStack (change : Stack → Stack) (c : Construction) : Construction :=
  { c with stack := change c.stack }

/-- The innermost open element. -/
def current? (c : Construction) : Option Frame := c.stack.head?

/-- Whether the innermost open element has a property. -/
def currentIs (p : Frame → Bool) (c : Construction) : Bool := c.current?.any p

/-- Whether new content goes in front of a table. -/
def isDisplaced (c : Construction) : Bool := c.fostering && c.currentIs Frame.isTablePart

/-! ## Inserting -/

/-- An element opened inside the innermost one. -/
def openElement (space : Space) (name : String) (attributes : List (String × String))
    (c : Construction) : Construction :=
  { c with
    stack :=
      { id := c.fresh, space, name, attributes, fostered := c.isDisplaced } :: c.stack
    fresh := c.fresh + 1 }

/-- The HTML element of a start tag opened. -/
def openTag (t : Tag) (c : Construction) : Construction := c.openElement .html t.name t.attributes

/-- The innermost element finished. -/
def closeCurrent (c : Construction) : Construction := c.onStack fun s => (s.close 1).settle

/-- The HTML element of a start tag inserted without content. -/
def insertEmpty (t : Tag) (c : Construction) : Construction := (c.openTag t).closeCurrent

/-- Text inserted at the innermost element. -/
def insertText (s : List Char) (c : Construction) : Construction :=
  if s.isEmpty then c
  else
    let add := Frame.addText (String.ofList s)
    c.onStack (if c.isDisplaced then Stack.aroundTable add else Stack.onTop add)

/-- A comment inserted at the innermost element. -/
def insertComment (data : String) (c : Construction) : Construction :=
  c.onStack (Stack.onTop (Frame.addChild (.comment data "")))

/-- The HTML element of a start tag opened, and its content read in another model up to its end
tag. -/
def openText (t : Tag) (model : ContentModel) (c : Construction) : Construction :=
  { c.openTag t with model := model, returnMode := c.mode, mode := .text }

/-! ## Formatting in effect -/

/-- The entries in front of the first marker. -/
def recentFormatting (c : Construction) : List Formatting :=
  c.formatting.takeWhile fun e => !e.isMarker

/-- An entry taken off the list. -/
def dropFormatting (id : Nat) (c : Construction) : Construction :=
  { c with formatting := c.formatting.filter fun e => !e.hasId id }

/-- The innermost element entered in the list. Of equal entries since the last marker no more than
three are kept: a fourth takes the place of the earliest. -/
def addFormatting (t : Tag) (c : Construction) : Construction :=
  match c.current? with
  | none => c
  | some f =>
    let entry := Formatting.element f.id t.name t.attributes
    let equal := c.recentFormatting.filter entry.sameElement
    let c := match equal.drop 2 with
      | [] => c
      | excess => { c with formatting := c.formatting.filter fun e => !excess.contains e }
    { c with formatting := entry :: c.formatting }

/-- A marker entered in the list. -/
def addMarker (c : Construction) : Construction :=
  { c with formatting := .marker :: c.formatting }

/-- The list from behind its first marker. -/
def clearToMarker (c : Construction) : Construction :=
  { c with formatting := (c.formatting.dropWhile fun e => !e.isMarker).drop 1 }

/-- The element of an entry opened anew. -/
def reopen (e : Formatting) (c : Construction) : Construction :=
  match e with
  | .marker => c
  | .element id name attributes =>
    let entry := Formatting.element c.fresh name attributes
    { c.openElement .html name attributes with
      formatting := c.formatting.map fun e => if e.hasId id then entry else e }

/-- Whether the element of an entry has been finished although its formatting is still in
effect. -/
def isStale (c : Construction) : Formatting → Bool
  | .marker => false
  | .element id _ _ => !c.stack.isOpen id

/-- The latest entries opened again whose elements have been finished, the earliest of them
first. -/
def reconstruct (c : Construction) : Construction :=
  (c.formatting.takeWhile c.isStale).reverse.foldl (fun c e => c.reopen e) c

/-! ## Finishing elements -/

/-- The elements whose end tags may be left out. -/
def impliedEnds : List String := ["dd", "dt", "li", "optgroup", "option", "p", "rp", "rt"]

/-- The innermost elements finished whose end tags may be left out. -/
def closeImplied (c : Construction) : Construction :=
  c.onStack (Stack.popWhile fun f => f.isHtmlIn impliedEnds)

/-- The innermost element with one of the given names finished, and everything inside of it. -/
def closeThrough (names : List String) (c : Construction) : Construction :=
  c.onStack (Stack.popThrough fun f => f.isHtmlIn names)

/-- Whether an element with one of the given names is open within a boundary. -/
def hasWithin (boundary : Frame → Bool) (names : List String) (c : Construction) : Bool :=
  c.stack.hasWithin boundary fun f => f.isHtmlIn names

/-- A paragraph finished, if one is open. -/
def closeParagraph (c : Construction) : Construction :=
  if c.hasWithin buttonBoundary ["p"] then c.closeThrough ["p"] else c

/-- The nearest element of a given name finished, unless an element with rules of its own is
nearer. -/
def closeNamed (name : String) (c : Construction) : Construction :=
  match c.stack.findWithin Frame.isSpecial fun f => f.isHtml name with
  | some f => c.onStack (Stack.popThrough fun g => g.id = f.id)
  | none => c

/-- The mode that fits the open elements. -/
def fittingMode : List Frame → Mode
  | [] => .body
  | f :: outer =>
    if f.space ≠ .html then fittingMode outer
    else if f.name = "select" then
      if outer.any fun g => g.isHtml "table" then .selectInTable else .select
    else if f.name = "td" || f.name = "th" then .cell
    else if f.name = "tr" then .row
    else if f.name = "tbody" || f.name = "thead" || f.name = "tfoot" then .tableBody
    else if f.name = "caption" then .caption
    else if f.name = "colgroup" then .columnGroup
    else if f.name = "table" then .table
    else fittingMode outer

/-- The construction in the mode that fits its open elements. -/
def resetMode (c : Construction) : Construction :=
  { c with mode := fittingMode c.stack.openFrames }

end Construction

end MarkupOutline.Html
