import MarkupOutline.Html.Construction.Adoption

/-!
# Flow content

How tokens are taken up in ordinary content: blocks end paragraphs, headings end headings, list
items end list items, formatting goes on past blocks. Table cells and captions fall back on these
rules, and so does content that a table displaces. Tags of the document's own elements mean nothing
inside a fragment.
-/

namespace MarkupOutline.Html.Construction

/-! ## Classes of start tags -/

/-- Tags that mean nothing in flow content. -/
def ignoredTags : List String :=
  ["html", "body", "head", "frameset", "frame", "caption", "col", "colgroup", "tbody", "td",
   "tfoot", "th", "thead", "tr"]

/-- Elements without content that stand beside the text. -/
def besideText : List String :=
  ["base", "basefont", "bgsound", "command", "link", "meta", "param", "source", "track"]

/-- Elements without content that stand in the text. -/
def withinText : List String := ["area", "br", "embed", "img", "keygen", "wbr", "input"]

/-- Blocks. -/
def blockTags : List String :=
  ["address", "article", "aside", "blockquote", "center", "details", "dir", "div", "dl", "fieldset",
   "figcaption", "figure", "footer", "header", "hgroup", "main", "menu", "nav", "ol", "p",
   "section", "summary", "ul"]

/-- Headings. -/
def headingTags : List String := ["h1", "h2", "h3", "h4", "h5", "h6"]

/-- Formatting elements, apart from those that end one of their own kind. -/
def formattingTags : List String :=
  ["b", "big", "code", "em", "font", "i", "s", "small", "strike", "strong", "tt", "u"]

/-- Elements that formatting does not reach into. -/
def sealedTags : List String := ["applet", "marquee", "object"]

/-- Elements whose content is text without references. -/
def rawTextTags : List String := ["style", "noframes", "iframe", "noembed"]

/-- Items of description lists. -/
def descriptionTags : List String := ["dd", "dt"]

/-! ## Start tags -/

/-- An item of a list opened, after the item of the same list that is open has been finished. -/
def openItem (names : List String) (t : Tag) (c : Construction) : Construction :=
  -- These three stand inside an item without hiding it.
  let boundary (f : Frame) := f.isSpecial && !f.isHtmlIn ["address", "div", "p"]
  let c := if c.hasWithin boundary names then c.closeThrough names else c
  c.closeParagraph.openTag t

/-- A formatting element opened. -/
def openFormatting (t : Tag) (c : Construction) : Construction :=
  (c.reconstruct.openTag t).addFormatting t

/-- A link opened, after any other link in effect has been ended. -/
def openLink (t : Tag) (c : Construction) : Construction :=
  let c := match c.recentFormatting.find? (·.hasName "a") with
    | some (.element id _ _) =>
      -- A table between the two links can keep the earlier one open; it must not stay so.
      ((c.endFormatting "a").dropFormatting id).onStack (Stack.remove id)
    | _ => c
  c.openFormatting t

/-- An element of foreign content opened inside flow content. -/
def openForeign (space : Space) (t : Tag) (c : Construction) : Construction :=
  let c := c.openElement space (space.tagName t.name) (space.attributes t.attributes)
  if t.selfClosing then c.closeCurrent else c

/-- A selection list opened. -/
def openSelect (t : Tag) (c : Construction) : Construction :=
  let inTable := [Mode.table, .caption, .tableBody, .row, .cell].contains c.mode
  { c.reconstruct.openTag t with mode := if inTable then .selectInTable else .select }

/-- A start tag in flow content. -/
def bodyStart (t : Tag) (c : Construction) : Construction :=
  let name := t.name
  if ignoredTags.contains name then c
  else if besideText.contains name then c.insertEmpty t
  else if withinText.contains name then c.reconstruct.insertEmpty t
  else if name = "image" then c.reconstruct.insertEmpty { t with name := "img" }
  else if name = "hr" then c.closeParagraph.insertEmpty t
  else if blockTags.contains name then c.closeParagraph.openTag t
  else if headingTags.contains name then
    let c := c.closeParagraph
    (if c.currentIs (·.isHtmlIn headingTags) then c.closeCurrent else c).openTag t
  else if name = "pre" || name = "listing" then
    { c.closeParagraph.openTag t with dropNewline := true }
  else if name = "form" then
    if c.form.isSome then c
    else { c.closeParagraph.openTag t with form := some c.closeParagraph.fresh }
  else if name = "li" then c.openItem ["li"] t
  else if descriptionTags.contains name then c.openItem descriptionTags t
  else if name = "plaintext" then { c.closeParagraph.openTag t with model := .plain }
  else if name = "button" then
    let c := if c.hasWithin scopeBoundary ["button"] then c.closeThrough ["button"] else c
    c.reconstruct.openTag t
  else if name = "a" then c.openLink t
  else if formattingTags.contains name then c.openFormatting t
  else if name = "nobr" then
    let c := c.reconstruct
    (if c.hasWithin scopeBoundary ["nobr"] then c.endFormatting "nobr" else c).openFormatting t
  else if sealedTags.contains name then (c.reconstruct.openTag t).addMarker
  else if name = "table" then { c.closeParagraph.openTag t with mode := .table }
  else if name = "title" then c.openText t (.escapableText name)
  else if name = "textarea" then
    { c.openText t (.escapableText name) with dropNewline := true }
  else if rawTextTags.contains name then c.openText t (.rawText name)
  else if name = "xmp" then c.closeParagraph.reconstruct.openText t (.rawText name)
  else if name = "script" then c.openText t .script
  else if name = "select" then c.openSelect t
  else if name = "optgroup" || name = "option" then
    (if c.currentIs (·.isHtml "option") then c.closeCurrent else c).reconstruct.openTag t
  else if name = "rp" || name = "rt" then
    (if c.hasWithin scopeBoundary ["ruby"] then c.closeImplied else c).openTag t
  else if name = "math" then c.reconstruct.openForeign .math t
  else if name = "svg" then c.reconstruct.openForeign .svg t
  else c.reconstruct.openTag t

/-! ## End tags -/

/-- Elements whose end tag finishes them wherever they are in scope. -/
def endingTags : List String :=
  ["address", "article", "aside", "blockquote", "button", "center", "details", "dialog", "dir",
   "div", "dl", "fieldset", "figcaption", "figure", "footer", "header", "hgroup", "listing", "main",
   "menu", "nav", "ol", "pre", "section", "summary", "ul"]

/-- The end of the form that is open. Elements opened inside of it stay open. -/
def endForm (c : Construction) : Construction :=
  match c.form with
  | none => c
  | some id =>
    let c := { c with form := none }
    if c.stack.hasWithin scopeBoundary fun f => f.id = id then
      c.closeImplied.onStack (Stack.remove id)
    else c

/-- The nearest element with one of the given names finished, if it is open within a boundary. -/
def endWithin (boundary : Frame → Bool) (names : List String) (c : Construction) : Construction :=
  if c.hasWithin boundary names then c.closeThrough names else c

/-- An end tag in flow content. -/
def bodyEnd (name : String) (c : Construction) : Construction :=
  if name = "body" || name = "html" then c
  else if endingTags.contains name then c.endWithin scopeBoundary [name]
  else if name = "form" then c.endForm
  else if name = "p" then
    -- The end of a paragraph that is not open is an empty paragraph.
    let c := if c.hasWithin buttonBoundary ["p"] then c else c.openTag { name := "p" }
    c.closeThrough ["p"]
  else if name = "li" then c.endWithin listBoundary ["li"]
  else if descriptionTags.contains name then c.endWithin scopeBoundary [name]
  else if headingTags.contains name then c.endWithin scopeBoundary headingTags
  else if name = "a" || name = "nobr" || formattingTags.contains name then c.endFormatting name
  else if sealedTags.contains name then
    if c.hasWithin scopeBoundary [name] then (c.closeThrough [name]).clearToMarker else c
  else if name = "br" then c.reconstruct.insertEmpty { name := "br" }
  else c.closeNamed name

/-! ## Other tokens -/

/-- Character data in flow content. Null characters are left out. -/
def bodyText (s : List Char) (c : Construction) : Construction :=
  let s := s.filter fun ch => ch.toNat ≠ 0
  if s.isEmpty then c else c.reconstruct.insertText s

/-- A token in flow content. -/
def bodyToken (t : Token) (c : Construction) : Construction :=
  match t with
  | .text s => c.bodyText s
  | .startTag tag => c.bodyStart tag
  | .endTag name => c.bodyEnd name
  | .comment data => c.insertComment data
  | .doctype => c

end MarkupOutline.Html.Construction
