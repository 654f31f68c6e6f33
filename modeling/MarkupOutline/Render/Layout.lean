import MarkupOutline.Elements
import MarkupOutline.Options.Basic
import MarkupOutline.Text.Blank
import MarkupOutline.Text.Escape
import MarkupOutline.Text.Indent
import MarkupOutline.Text.Lines

/-!
# Layout of the parts of a node

How each part of a node is written: character data, comment payloads, attribute lists and end tags.
The functions here look at no children and take their decisions from the options, the nesting depth
and a few facts about the place, so that they serve every kind of tree.
-/

namespace MarkupOutline.Layout

open Text (allBlank escape indentation lines newline trim trimStart unlines)

/-! ## Character data -/

/-- Character data. Blank text is not written at all; verbatim text is written as it stands, and
other text trimmed and on a line of its own. -/
def text (o : Options) (indent : Int) (verbatim : Bool) (value : List Char) : List Char :=
  if allBlank value then []
  else
    let written := if o.escapeInnerText then escape value else value
    if verbatim then written else newline indent ++ trim written

/-! ## Comments -/

/-- The lines of a comment payload moved to a nesting depth: an empty line stays empty, the last
line is trimmed, and every other line is indented one level deeper than the comment. -/
def reindent (indent : Int) : List (List Char) → List (List Char)
  | [] => []
  | [last] => [trim last]
  | line :: more =>
    let moved := if line.isEmpty then [] else indentation (indent + 1) ++ trimStart line
    moved :: reindent indent more

/-- The last character of a text is a line feed. -/
def endsLine (s : List Char) : Bool := s.getLast? == some '\n'

/-- What stands between the delimiters of a comment. A payload that does not begin or end on a line
of its own is set off by a space; the closing delimiter of one that does is indented. -/
def payload (indent : Int) (data : List Char) : List Char :=
  if allBlank data then []
  else
    let body := unlines (reindent indent (lines data))
    let opened := if body.head? == some '\n' then body else ' ' :: body
    -- A payload that ends its last line leaves the closing delimiter below the opening one.
    if endsLine opened then opened ++ indentation indent else opened ++ [' ']

/-- A comment, always on a new line. -/
def comment (indent : Int) (data : List Char) : List Char :=
  newline indent ++ "<!--".toList ++ payload indent data ++ "-->".toList

/-! ## Attributes -/

/-- One attribute: its name, and unless the value is empty and empty values are not written, the
value between double quotes. -/
def attributeText (o : Options) (name value : List Char) : List Char :=
  if !value.isEmpty || o.emptyAttributes then name ++ '=' :: '"' :: value ++ ['"'] else name

/-- The end of an open tag. -/
def bracket (closed : Bool) : List Char := if closed then " />".toList else ">".toList

/-- The attributes of a tag and the bracket behind them. Up to the limit they stay on the line of
the tag; above it each has a line of its own, and so has the bracket. -/
def attributeList (o : Options) (indent : Int) (closed : Bool) (written : List (List Char)) :
    List Char :=
  if written.isEmpty then bracket closed
  else if o.attributesPerLine < written.length then
    written.flatMap (fun a => newline (indent + 1) ++ a) ++ newline indent ++ trim (bracket closed)
  else written.flatMap (fun a => ' ' :: a) ++ bracket closed

/-- The open tag up to its name: on a new line, except inside preformatted content. -/
def openTag (indent : Int) (inPre : Bool) (tag : List Char) : List Char :=
  (if inPre then [] else newline indent) ++ '<' :: tag

/-! ## Ends of elements -/

/-- Whether an element closes itself: shapes do unless end tags are asked for, void elements do in
the style that says so, and other elements do when they are childless, hold no raw text, and the
option is on. -/
def closesItself (o : Options) (kind : Kind) (hasChildren : Bool) : Bool :=
  (kind.shape && (o.voidElements == .html || o.voidElements == .xhtml)) ||
  (kind.void && o.voidElements == .xhtml) ||
  (!kind.void && o.selfClosingTag && !hasChildren && !kind.rawText)

/-- Where the end tag of an element goes. -/
inductive EndTag where
  /-- There is none. -/
  | absent
  /-- Directly behind the content. -/
  | inline
  /-- On a line of its own. -/
  | ownLine
  deriving DecidableEq, Repr

/-- The place of the end tag of an element that does not close itself. `preserved` says that text
inside the element keeps its white space, `inPre` that its content is preformatted. -/
def endTag (o : Options) (kind : Kind) (preserved hasChildren inPre : Bool) : EndTag :=
  let explicit := o.voidElements == .closingTag
  if kind.void && !explicit then .absent
  else if preserved || !hasChildren || (explicit && (kind.void || kind.shape)) || inPre then .inline
  else .ownLine

/-- The elements without an end tag are the void ones, unless end tags are asked for. -/
theorem lacksEndTag_iff (o : Options) (tag : String) :
    ((Kind.ofName tag).void && !(o.voidElements == .closingTag)) = true ↔
      tag ∈ voidNames ∧ o.voidElements ≠ .closingTag := by
  simp [Kind.void_ofName]

/-- An end tag as it is written. -/
def EndTag.write (e : EndTag) (indent : Int) (tag : List Char) : List Char :=
  match e with
  | absent => []
  | inline => '<' :: '/' :: tag ++ ['>']
  | ownLine => newline indent ++ '<' :: '/' :: tag ++ ['>']

end MarkupOutline.Layout
