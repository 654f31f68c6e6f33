import MarkupOutline.Html.Construction.Body

/-!
# Tables and selection lists

How tokens are taken up inside tables, their parts, and selection lists. A table part opens the
parts that have to be around it and finishes those that cannot be. Anything else directly inside a
table is taken up by the rules of flow content and goes in front of the table.

A rule may finish a part and leave the token to the rules that apply then, which is what
`Step.again` says.
-/

namespace MarkupOutline.Html

/-- What a rule does with a token. -/
inductive Step where
  /-- The token has been taken up. -/
  | done (c : Construction)
  /-- The token is still to be taken up. -/
  | again (c : Construction)
  deriving Repr

namespace Construction

/-! ## Parts of tables -/

/-- The groups of rows. -/
def rowGroups : List String := ["tbody", "tfoot", "thead"]

/-- The cells. -/
def cells : List String := ["td", "th"]

/-- The tags that begin another part of a table. -/
def partTags : List String :=
  ["caption", "col", "colgroup", "tbody", "td", "tfoot", "th", "thead", "tr"]

/-- Everything inside the nearest element with one of the given names finished. The fragment itself
is always such an element. -/
def clearTo (names : List String) (c : Construction) : Construction :=
  c.onStack (Stack.popTo fun f => f.isHtmlIn ("html" :: names))

/-- Content directly inside a table, taken up by the rules of flow content and put in front of the
table. -/
def displace (t : Token) (c : Construction) : Construction :=
  { bodyToken t { c with fostering := true } with fostering := false }

/-- The table finished. -/
def endTable (c : Construction) : Construction := (c.closeThrough ["table"]).resetMode

/-- White space as it is told apart inside tables. -/
def isTableSpace (ch : Char) : Bool := isSpace ch || ch = '\r'

/-- The text collected directly inside a table put in its place: white space stays in the table,
and text with anything else in it is displaced. -/
def placePending (c : Construction) : Construction :=
  let s := c.pending
  let c := { c with pending := [], mode := c.returnMode }
  if s.all isTableSpace then c.insertText s else c.displace (.text s)

/-! ## Rules -/

/-- Whether a start tag is that of an input field that is not shown. -/
def isHiddenInput (t : Tag) : Bool :=
  t.name = "input" &&
    t.attributes.any fun (name, value) => name = "type" && value.toLower = "hidden"

/-- A start tag directly inside a table. -/
def tableStart (t : Tag) (c : Construction) : Step :=
  let name := t.name
  let cleared := c.clearTo ["table"]
  if name = "caption" then .done { cleared.addMarker.openTag t with mode := .caption }
  else if name = "colgroup" then .done { cleared.openTag t with mode := .columnGroup }
  else if name = "col" then
    .again { cleared.openTag { name := "colgroup" } with mode := .columnGroup }
  else if rowGroups.contains name then .done { cleared.openTag t with mode := .tableBody }
  else if cells.contains name || name = "tr" then
    .again { cleared.openTag { name := "tbody" } with mode := .tableBody }
  else if name = "table" then
    if c.hasWithin tableBoundary ["table"] then .again c.endTable else .done c
  else if name = "style" || name = "script" then .done (c.bodyStart t)
  else if isHiddenInput t then .done (c.insertEmpty t)
  else if name = "form" then
    -- The form is noted as open but holds nothing, since no content stands directly in a table.
    if c.form.isSome then .done c
    else .done ({ c.openTag t with form := some c.fresh }).closeCurrent
  else .done (c.displace (.startTag t))

/-- An end tag directly inside a table. -/
def tableEnd (name : String) (c : Construction) : Step :=
  if name = "table" then
    .done (if c.hasWithin tableBoundary ["table"] then c.endTable else c)
  else if partTags.contains name || name = "body" || name = "html" then .done c
  else .done (c.displace (.endTag name))

/-- A token directly inside a table. -/
def tableToken (t : Token) (c : Construction) : Step :=
  match t with
  | .text s =>
    if c.currentIs Frame.isTablePart then
      .again { c with mode := .tableText, returnMode := c.mode, pending := [] }
    else .done (c.displace (.text s))
  | .startTag tag => c.tableStart tag
  | .endTag name => c.tableEnd name
  | .comment data => .done (c.insertComment data)
  | .doctype => .done c

/-- A token behind text directly inside a table. -/
def tableTextToken (t : Token) (c : Construction) : Step :=
  match t with
  | .text s => .done { c with pending := c.pending ++ s.filter fun ch => ch.toNat ≠ 0 }
  | _ => .again c.placePending

/-- The caption finished. -/
def endCaption (c : Construction) : Construction :=
  { (c.closeThrough ["caption"]).clearToMarker with mode := .table }

/-- A token inside a caption. -/
def captionToken (t : Token) (c : Construction) : Step :=
  let inCaption := c.hasWithin tableBoundary ["caption"]
  match t with
  | .startTag tag =>
    if partTags.contains tag.name then if inCaption then .again c.endCaption else .done c
    else .done (c.bodyToken t)
  | .endTag name =>
    if name = "caption" then .done (if inCaption then c.endCaption else c)
    else if name = "table" then if inCaption then .again c.endCaption else .done c
    else if partTags.contains name || name = "body" || name = "html" then .done c
    else .done (c.bodyToken t)
  | _ => .done (c.bodyToken t)

/-- The group of columns finished and the token left, if a group is the innermost element. -/
def leaveColumns (c : Construction) : Step :=
  if c.currentIs (·.isHtml "colgroup") then .again { c.closeCurrent with mode := .table }
  else .done c

/-- A token inside a group of columns. Text has been cut in front of its first visible
character. -/
def columnToken (t : Token) (c : Construction) : Step :=
  match t with
  | .text s => if s.all isTableSpace then .done (c.insertText s) else c.leaveColumns
  | .comment data => .done (c.insertComment data)
  | .doctype => .done c
  | .startTag tag =>
    if tag.name = "html" then .done c
    else if tag.name = "col" then .done (c.insertEmpty tag)
    else c.leaveColumns
  | .endTag name =>
    if name = "colgroup" then
      match c.leaveColumns with
      | .again c => .done c
      | .done c => .done c
    else if name = "col" then .done c
    else c.leaveColumns

/-- The group of rows finished and the token left, if a group is open. -/
def leaveRowGroup (c : Construction) : Step :=
  if c.hasWithin tableBoundary rowGroups then
    .again { (c.clearTo rowGroups).closeCurrent with mode := .table }
  else .done c

/-- A token inside a group of rows. -/
def rowGroupToken (t : Token) (c : Construction) : Step :=
  match t with
  | .startTag tag =>
    if tag.name = "tr" then .done { (c.clearTo rowGroups).openTag tag with mode := .row }
    else if cells.contains tag.name then
      .again { (c.clearTo rowGroups).openTag { name := "tr" } with mode := .row }
    else if partTags.contains tag.name then c.leaveRowGroup
    else c.tableToken t
  | .endTag name =>
    if rowGroups.contains name then
      if c.hasWithin tableBoundary [name] then
        .done { (c.clearTo rowGroups).closeCurrent with mode := .table }
      else .done c
    else if name = "table" then c.leaveRowGroup
    else c.tableToken t
  | _ => c.tableToken t

/-- The row finished. -/
def endRow (c : Construction) : Construction :=
  { (c.clearTo ["tr"]).closeCurrent with mode := .tableBody }

/-- A token inside a row. -/
def rowToken (t : Token) (c : Construction) : Step :=
  let inRow := c.hasWithin tableBoundary ["tr"]
  match t with
  | .startTag tag =>
    if cells.contains tag.name then
      .done { (c.clearTo ["tr"]).openTag tag with mode := .cell }.addMarker
    else if partTags.contains tag.name then if inRow then .again c.endRow else .done c
    else c.tableToken t
  | .endTag name =>
    if name = "tr" then .done (if inRow then c.endRow else c)
    else if name = "table" then if inRow then .again c.endRow else .done c
    else if rowGroups.contains name then
      if c.hasWithin tableBoundary [name] && inRow then .again c.endRow else .done c
    else c.tableToken t
  | _ => c.tableToken t

/-- The cell finished. -/
def endCell (c : Construction) : Construction :=
  { (c.closeThrough cells).clearToMarker with mode := .row }

/-- A token inside a cell. -/
def cellToken (t : Token) (c : Construction) : Step :=
  match t with
  | .startTag tag =>
    if partTags.contains tag.name then
      if c.hasWithin tableBoundary cells then .again c.endCell else .done c
    else .done (c.bodyToken t)
  | .endTag name =>
    if cells.contains name then
      if c.hasWithin tableBoundary [name] then
        .done { (c.closeThrough [name]).clearToMarker with mode := .row }
      else .done c
    else if ["body", "caption", "col", "colgroup", "html"].contains name then .done c
    else if name = "table" || name = "tr" || rowGroups.contains name then
      if c.hasWithin tableBoundary [name] then .again c.endCell else .done c
    else .done (c.bodyToken t)
  | _ => .done (c.bodyToken t)

/-! ## Selection lists -/

/-- The selection list finished. -/
def endSelect (c : Construction) : Construction := (c.closeThrough ["select"]).resetMode

/-- A start tag inside a selection list. -/
def selectStart (t : Tag) (c : Construction) : Step :=
  let name := t.name
  let inSelect := c.hasWithin selectBoundary ["select"]
  let withoutOption := if c.currentIs (·.isHtml "option") then c.closeCurrent else c
  if name = "option" then .done (withoutOption.openTag t)
  else if name = "optgroup" then
    let c := withoutOption
    .done ((if c.currentIs (·.isHtml "optgroup") then c.closeCurrent else c).openTag t)
  else if name = "select" then .done (if inSelect then c.endSelect else c)
  else if name = "input" || name = "keygen" || name = "textarea" then
    if inSelect then .again c.endSelect else .done c
  else if name = "script" then .done (c.bodyStart t)
  else .done c

/-- An end tag inside a selection list. -/
def selectEnd (name : String) (c : Construction) : Construction :=
  if name = "option" then if c.currentIs (·.isHtml "option") then c.closeCurrent else c
  else if name = "optgroup" then
    -- An option directly inside the group has no end tag of its own here.
    let groupAround := (c.stack.openFrames.drop 1).head?.any (·.isHtml "optgroup")
    let c := if c.currentIs (·.isHtml "option") && groupAround then c.closeCurrent else c
    if c.currentIs (·.isHtml "optgroup") then c.closeCurrent else c
  else if name = "select" && c.hasWithin selectBoundary ["select"] then c.endSelect
  else c

/-- A token inside a selection list. -/
def selectToken (t : Token) (c : Construction) : Step :=
  match t with
  | .text s => .done (c.insertText (s.filter fun ch => ch.toNat ≠ 0))
  | .startTag tag => c.selectStart tag
  | .endTag name => .done (c.selectEnd name)
  | .comment data => .done (c.insertComment data)
  | .doctype => .done c

/-- The tags of tables that end a selection list inside a table. -/
def selectBreakers : List String :=
  ["caption", "table", "tbody", "tfoot", "thead", "tr", "td", "th"]

/-- A token inside a selection list inside a table. -/
def selectInTableToken (t : Token) (c : Construction) : Step :=
  match t with
  | .startTag tag =>
    if selectBreakers.contains tag.name then .again c.endSelect else c.selectToken t
  | .endTag name =>
    if selectBreakers.contains name then
      if c.hasWithin tableBoundary [name] then .again c.endSelect else .done c
    else c.selectToken t
  | _ => c.selectToken t

end Construction

end MarkupOutline.Html
