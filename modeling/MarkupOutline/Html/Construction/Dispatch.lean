import MarkupOutline.Html.Construction.Tables
import MarkupOutline.Html.Token.Scanning

/-!
# Taking up tokens

Which rules a token is taken up by: those of foreign content if the innermost element is foreign
and does not contain HTML, and otherwise those of the mode. The fragment is finished when no text
is left.
-/

namespace MarkupOutline.Html

namespace Construction

/-! ## Foreign content -/

/-- Whether a token is taken up by the rules of foreign content. -/
def isForeign (t : Token) (c : Construction) : Bool :=
  match c.current? with
  | none => false
  | some f =>
    -- Text of the surrounding language and graphic descriptions contain HTML.
    let asHtml := match t with
      | .text _ => f.isMathText || f.containsHtml
      | .startTag tag =>
        (f.isMathText && tag.name ≠ "mglyph" && tag.name ≠ "malignmark") ||
          (f.isAnnotation && tag.name = "svg") || f.containsHtml
      | _ => false
    f.space ≠ .html && !asHtml

/-- Whether foreign content ends at a frame: it is HTML or contains HTML. -/
def endsForeign (f : Frame) : Bool := f.space = .html || f.isMathText || f.containsHtml

/-- The foreign elements finished up to the next place for HTML. -/
def leaveForeign (c : Construction) : Construction := c.onStack (Stack.popTo endsForeign)

/-- The frame that an end tag in foreign content finishes: the nearest with its name, letter case
aside, that is not behind an HTML element. The innermost frame is looked at first, whatever it
is. -/
def foreignTarget? (name : String) : List Frame → Option Frame
  | [] => none
  | f :: outer =>
    if f.name.toLower = name then some f
    else match outer with
      | [] => none
      | next :: _ => if next.space = .html then none else foreignTarget? name outer

/-- The rules of the mode, for one token. -/
def modeStep (t : Token) (c : Construction) : Step :=
  match c.mode with
  | .body => .done (c.bodyToken t)
  | .text =>
    match t with
    | .text s => .done (c.insertText s)
    | .endTag _ => .done { c.closeCurrent with mode := c.returnMode, model := .data }
    | _ => .done c
  | .table => c.tableToken t
  | .tableText => c.tableTextToken t
  | .caption => c.captionToken t
  | .columnGroup => c.columnToken t
  | .tableBody => c.rowGroupToken t
  | .row => c.rowToken t
  | .cell => c.cellToken t
  | .select => c.selectToken t
  | .selectInTable => c.selectInTableToken t

/-- The rules of foreign content, for one token. -/
def foreignStep (t : Token) (c : Construction) : Step :=
  match t with
  | .text s => .done (c.insertText (s.map withoutNull))
  | .comment data => .done (c.insertComment data)
  | .doctype => .done c
  | .startTag tag =>
    if tag.breaksOut then c.leaveForeign.modeStep t
    else .done (c.openForeign ((c.current?.map (·.space)).getD .html) tag)
  | .endTag name =>
    if name = "br" || name = "p" then c.leaveForeign.modeStep t
    else
      match foreignTarget? name c.stack.openFrames with
      | some f => .done (c.onStack (Stack.popThrough fun g => g.id = f.id))
      | none => c.modeStep t

/-! ## Tokens -/

/-- A token taken up. Whenever a rule leaves the token to others, it has finished an element,
opened a table part or changed the mode, and no more than a few of these can follow each other
without finishing an element; the number of open elements therefore bounds the number of rounds. -/
def takeWithin : Nat → Token → Construction → Construction
  | 0, _, c => c
  | rounds + 1, t, c =>
    match if c.isForeign t then c.foreignStep t else c.modeStep t with
    | .done c => c
    | .again c => takeWithin rounds t c

/-- A token taken up by whatever rules apply. -/
def take (t : Token) (c : Construction) : Construction := takeWithin (4 * c.stack.length + 16) t c

/-- A token as the rules expect it: a line feed that is to be left out is gone. -/
def trimNewline (drop : Bool) : Token → Token
  | .text ('\n' :: rest) => if drop then .text rest else .text ('\n' :: rest)
  | t => t

/-- Text inside a group of columns cut in front of its first visible character, and any other token
whole. -/
def pieces (t : Token) (c : Construction) : List Token :=
  match t with
  | .text s =>
    if c.mode = .columnGroup then
      let (space, rest) := s.span isTableSpace
      [.text space, .text rest]
    else [t]
  | _ => [t]

/-- The next token of the markup taken up. -/
def accept (t : Token) (c : Construction) : Construction :=
  let t := trimNewline c.dropNewline t
  (c.pieces t).foldl
    (fun c t => match t with
      | .text [] => c
      | t => c.take t)
    { c with dropNewline := false }

/-- Whether marked sections are recognised. -/
def readsSections (c : Construction) : Bool := c.currentIs fun f => f.space ≠ .html

/-- The markup taken up token by token. Every token takes at least one character, so the length of
the text bounds their number. -/
def readWithin : Nat → List Char → Construction → Construction
  | 0, _, c => c
  | rounds + 1, s, c =>
    if s.isEmpty then c
    else
      -- What was read last decides how the text behind it is cut.
      let (token, rest) := Token.next c.model c.readsSections s
      readWithin rounds rest (token.elim c fun t => c.accept t)

/-- The tree of everything taken up, with all elements finished. -/
def finish (c : Construction) : Tailed :=
  -- Text at the very end of a table is still waiting for its place.
  let c := if c.mode = .tableText then c.placePending else c
  match (c.stack.close c.stack.length).head? with
  | some f => f.toTailed
  | none => .element "html" [] "" [] ""

end Construction

/-- The tree of a piece of markup, as the content of one element around it. Every text is
markup. -/
def parseTree (markup : String) : Tailed :=
  let s := normalizeNewlines markup.toList
  (Construction.readWithin s.length s Construction.start).finish

end MarkupOutline.Html
