import MarkupOutline.Html.Foreign
import MarkupOutline.Tailed.Basic

/-!
# Open elements

The elements that are being built, innermost first. A frame holds an element with what it contains
so far; closing it turns it into a finished tree and hands it to the frame it belongs to. The
outermost frame stands for the fragment as a whole and is never closed.

An element can stop counting as open while elements inside of it are still being built, for
instance when a form ends before the table row that began in it. Its frame then stays where it is,
so that the tree comes out right, but no search looks at it, and it is closed as soon as it is the
innermost one.

Content that is not allowed directly in a table goes in front of the table instead. A frame for
such an element is marked as fostered, and its tree is handed to the frame around the nearest
table.
-/

namespace MarkupOutline.Html

/-- An element that is being built. -/
structure Frame where
  /-- Tells the elements of one fragment apart. -/
  id : Nat
  space : Space := .html
  name : String
  attributes : List (String × String) := []
  /-- The text before the first child. -/
  text : String := ""
  /-- The finished children, the last one first. -/
  children : List Tailed := []
  /-- The element counts as open. -/
  isOpen : Bool := true
  /-- The element belongs in front of the nearest table. -/
  fostered : Bool := false
  deriving Repr

namespace Frame

/-- Whether this is the HTML element of a given name. -/
def isHtml (f : Frame) (name : String) : Bool := f.space = .html && f.name = name

/-- Whether this is an HTML element with one of the given names. -/
def isHtmlIn (f : Frame) (names : List String) : Bool := f.space = .html && names.contains f.name

/-- The HTML elements with rules of their own, which stop most searches through the open
elements. -/
def specialNames : List String :=
  ["address", "applet", "area", "article", "aside", "base", "basefont", "bgsound", "blockquote",
   "body", "br", "button", "caption", "center", "col", "colgroup", "command", "dd", "details",
   "dir", "div", "dl", "dt", "embed", "fieldset", "figcaption", "figure", "footer", "form", "frame",
   "frameset", "h1", "h2", "h3", "h4", "h5", "h6", "head", "header", "hgroup", "hr", "html",
   "iframe", "img", "input", "keygen", "li", "link", "listing", "main", "marquee", "menu", "meta",
   "nav", "noembed", "noframes", "noscript", "object", "ol", "p", "param", "plaintext", "pre",
   "script", "section", "select", "source", "style", "summary", "table", "tbody", "td", "textarea",
   "tfoot", "th", "thead", "title", "tr", "track", "ul", "wbr", "xmp"]

/-- The elements of mathematics that contain text of the surrounding language. -/
def mathTextNames : List String := ["mi", "mo", "mn", "ms", "mtext"]

/-- The graphic elements that contain HTML. -/
def svgHtmlNames : List String := ["foreignObject", "desc", "title"]

/-- Whether the element has rules of its own. -/
def isSpecial (f : Frame) : Bool :=
  match f.space with
  | .html => specialNames.contains f.name
  | .math => mathTextNames.contains f.name || f.name = "annotation-xml"
  | .svg => svgHtmlNames.contains f.name

/-- Whether the element contains text of the surrounding language. -/
def isMathText (f : Frame) : Bool := f.space = .math && mathTextNames.contains f.name

/-- Whether the element is an annotation of mathematics. -/
def isAnnotation (f : Frame) : Bool := f.space = .math && f.name = "annotation-xml"

/-- Whether the element contains HTML inside foreign content. -/
def containsHtml (f : Frame) : Bool :=
  match f.space with
  | .svg => svgHtmlNames.contains f.name
  | .math =>
    f.isAnnotation && f.attributes.any fun (name, value) =>
      name = "encoding" && ["text/html", "application/xhtml+xml"].contains value.toLower
  | .html => false

/-- The elements of which only table parts are allowed inside. -/
def isTablePart (f : Frame) : Bool := f.isHtmlIn ["table", "tbody", "tfoot", "thead", "tr"]

/-- Text behind what the element contains so far. -/
def addText (s : String) (f : Frame) : Frame :=
  match f.children with
  | [] => { f with text := f.text ++ s }
  | last :: more => { f with children := last.addTail s :: more }

/-- A finished child behind what the element contains so far. -/
def addChild (child : Tailed) (f : Frame) : Frame := { f with children := child :: f.children }

/-- The finished tree of the element. -/
def toTailed (f : Frame) : Tailed :=
  .element (f.space.qualify f.name) f.attributes f.text f.children.reverse ""

end Frame

/-- The open elements, innermost first. -/
abbrev Stack := List Frame

namespace Stack

/-- A change to the innermost frame. -/
def onTop (change : Frame → Frame) : Stack → Stack
  | [] => []
  | f :: below => change f :: below

/-- A change to the frame around the nearest table, or to the outermost one if there is no
table. -/
def aroundTable (change : Frame → Frame) : Stack → Stack
  | [] => []
  | [f] => [change f]
  | f :: g :: below =>
    if f.isHtml "table" then f :: change g :: below else f :: aroundTable change (g :: below)

/-- The stack with its innermost element finished. -/
def closeTop : Stack → Stack
  | f :: g :: below =>
    let give := Frame.addChild f.toTailed
    if f.fostered then aroundTable give (g :: below) else onTop give (g :: below)
  | s => s

/-- The stack with a number of innermost elements finished. -/
def close : Nat → Stack → Stack
  | 0, s => s
  | n + 1, s => close n s.closeTop

/-- The stack with the innermost elements finished that no longer count as open. -/
def settle (s : Stack) : Stack := close (s.takeWhile fun f => !f.isOpen).length s

/-- The frames that count as open. -/
def openFrames (s : Stack) : List Frame := s.filter (·.isOpen)

/-- The stack with everything finished inside the innermost open element that has a property. -/
def popTo (p : Frame → Bool) (s : Stack) : Stack :=
  close (s.takeWhile fun f => !(f.isOpen && p f)).length s

/-- The stack with the innermost open element that has a property finished, and everything inside
of it. -/
def popThrough (p : Frame → Bool) (s : Stack) : Stack :=
  settle (close ((s.takeWhile fun f => !(f.isOpen && p f)).length + 1) s)

/-- The stack with all innermost elements finished that have a property. -/
def popWhile (p : Frame → Bool) (s : Stack) : Stack :=
  settle (close (s.takeWhile fun f => !f.isOpen || p f).length s)

/-- The stack in which an element no longer counts as open. -/
def remove (id : Nat) (s : Stack) : Stack :=
  settle (s.map fun f => if f.id = id then { f with isOpen := false } else f)

/-- Whether an element is open. -/
def isOpen (id : Nat) (s : Stack) : Bool := s.any fun f => f.id = id && f.isOpen

/-- The innermost element that is open and has a property, if no boundary is nearer. -/
def findWithin (boundary p : Frame → Bool) (s : Stack) : Option Frame :=
  (s.openFrames.find? fun f => p f || boundary f).filter p

/-- Whether an element with a property is open and no boundary is nearer. -/
def hasWithin (boundary p : Frame → Bool) (s : Stack) : Bool := (s.findWithin boundary p).isSome

end Stack

/-! ## Scopes

How far searches for an open element go, by what stops them. -/

/-- The elements that stop every ordinary search. -/
def scopeBoundary (f : Frame) : Bool :=
  match f.space with
  | .html =>
    ["applet", "caption", "html", "table", "td", "th", "marquee", "object"].contains f.name
  | _ => f.isSpecial

/-- The boundaries of a search for a list item. -/
def listBoundary (f : Frame) : Bool := scopeBoundary f || f.isHtmlIn ["ol", "ul"]

/-- The boundaries of a search for a paragraph. -/
def buttonBoundary (f : Frame) : Bool := scopeBoundary f || f.isHtml "button"

/-- The boundaries of a search for a table part. -/
def tableBoundary (f : Frame) : Bool := f.isHtmlIn ["html", "table"]

/-- The boundaries of a search for a selection list. -/
def selectBoundary (f : Frame) : Bool := !f.isHtmlIn ["optgroup", "option"]

end MarkupOutline.Html
