import MarkupOutline.Render.Buffer
import MarkupOutline.Render.Outline

/-!
# Writing outlines into buffers

An outline can be put together in a buffer that is handed from part to part of the tree: each part
adds its pieces behind those that are there. What a step of writing adds does not depend on what has
been written (`Buffer.Adds`), and steps one after the other add their texts one after the other. So
every part adds what it contributes to the outline, and at the end the buffer holds the outline
(`Fragment.build_write`).
-/

namespace MarkupOutline

/-! ## Steps of writing -/

/-- A step of writing adds a text, whatever has been written before. -/
def Buffer.Adds (step : Buffer → Buffer) (s : List Char) : Prop :=
  ∀ b, (step b).build = b.build ++ s

namespace Buffer.Adds

variable {step next : Buffer → Buffer} {s t : List Char}

/-- Nothing is added where nothing is done. -/
theorem none : Adds id [] := fun b => (List.append_nil b.build).symm

/-- Two steps add their texts one after the other. -/
theorem andThen (h : Adds step s) (hnext : Adds next t) : Adds (next ∘ step) (s ++ t) := by
  intro b
  rw [Function.comp_apply, hnext, h, List.append_assoc]

/-- A piece adds its characters. -/
theorem piece (s : List Char) : Adds (Buffer.append s) s := Buffer.build_append s

/-- A new line adds a line feed and its indentation. -/
theorem newline (level : Int) : Adds (Buffer.newline level) (Text.newline level) :=
  Buffer.build_newline level

/-- Steps for the items of a list add their texts one after the other. -/
theorem foldl {α : Type} {write : α → Buffer → Buffer} {text : α → List Char}
    (h : ∀ a, Adds (write a) (text a)) (items : List α) :
    Adds (fun b => items.foldl (fun b a => write a b) b) (items.flatMap text) := by
  induction items with
  | nil => exact none
  | cons a more ih => exact (h a).andThen ih

end Buffer.Adds

/-! ## Parts of a node -/

namespace Layout

open Text (allBlank escape trim)

/-- Character data written into a buffer. -/
def writeText (o : Options) (indent : Int) (verbatim : Bool) (value : List Char) (b : Buffer) :
    Buffer :=
  if allBlank value then b
  else
    let written := if o.escapeInnerText then escape value else value
    if verbatim then b.append written else (b.newline indent).append (trim written)

/-- A comment written into a buffer. -/
def writeComment (indent : Int) (data : List Char) (b : Buffer) : Buffer :=
  if allBlank data then (b.newline indent).append "<!---->".toList
  else (((b.newline indent).append "<!--".toList).append (payload indent data)).append "-->".toList

/-- The open tag up to its name written into a buffer. -/
def writeOpenTag (indent : Int) (inPre : Bool) (tag : List Char) (b : Buffer) : Buffer :=
  ((if inPre then b else b.newline indent).append ['<']).append tag

/-- The attributes of a tag and the bracket behind them written into a buffer. -/
def writeAttributes (o : Options) (indent : Int) (closed : Bool) (written : List (List Char))
    (b : Buffer) : Buffer :=
  if written.isEmpty then b.append (bracket closed)
  else if o.attributesPerLine < written.length then
    ((written.foldl (fun b a => (b.newline (indent + 1)).append a) b).newline indent).append
      (trim (bracket closed))
  else (written.foldl (fun b a => (b.append [' ']).append a) b).append (bracket closed)

/-- An end tag written into a buffer. -/
def EndTag.writeTo (e : EndTag) (indent : Int) (tag : List Char) (b : Buffer) : Buffer :=
  match e with
  | absent => b
  | inline => ((b.append ['<', '/']).append tag).append ['>']
  | ownLine => (((b.newline indent).append ['<', '/']).append tag).append ['>']

open Buffer (Adds)

/-- Character data adds its layout. -/
theorem adds_writeText (o : Options) (indent : Int) (verbatim : Bool) (value : List Char) :
    Adds (writeText o indent verbatim value) (text o indent verbatim value) := by
  intro b
  unfold writeText text
  dsimp only
  split
  · exact Adds.none b
  · split
    · exact Adds.piece _ b
    · exact (Adds.newline indent).andThen (Adds.piece _) b

/-- A comment adds its layout. A blank payload has nothing between the delimiters. -/
theorem adds_writeComment (indent : Int) (data : List Char) :
    Adds (writeComment indent data) (comment indent data) := by
  intro b
  unfold writeComment
  split
  · next hblank =>
    rw [comment, payload, if_pos hblank, List.append_nil, List.append_assoc]
    exact (Adds.newline indent).andThen (Adds.piece _) b
  · exact (((Adds.newline indent).andThen (Adds.piece _)).andThen (Adds.piece _)).andThen
      (Adds.piece _) b

/-- An open tag adds its layout. -/
theorem adds_writeOpenTag (indent : Int) (inPre : Bool) (tag : List Char) :
    Adds (writeOpenTag indent inPre tag) (openTag indent inPre tag) := by
  have htag : Adds (Buffer.append tag ∘ Buffer.append ['<']) ('<' :: tag) :=
    (Adds.piece ['<']).andThen (Adds.piece tag)
  intro b
  unfold writeOpenTag openTag
  split
  · exact htag b
  · exact (Adds.newline indent).andThen htag b

/-- Attributes add their layout. -/
theorem adds_writeAttributes (o : Options) (indent : Int) (closed : Bool)
    (written : List (List Char)) :
    Adds (writeAttributes o indent closed written) (attributeList o indent closed written) := by
  intro b
  unfold writeAttributes attributeList
  split
  · exact Adds.piece _ b
  · split
    · have hlines := Adds.foldl
        (fun a => (Adds.newline (indent + 1)).andThen (Adds.piece a)) written
      exact (hlines.andThen (Adds.newline indent)).andThen (Adds.piece _) b
    · have hspaced := Adds.foldl (fun a => (Adds.piece [' ']).andThen (Adds.piece a)) written
      exact hspaced.andThen (Adds.piece _) b

/-- An end tag adds its layout. -/
theorem EndTag.adds_writeTo (e : EndTag) (indent : Int) (tag : List Char) :
    Adds (e.writeTo indent tag) (e.write indent tag) := by
  have htag : Adds ((Buffer.append ['>'] ∘ Buffer.append tag) ∘ Buffer.append ['<', '/'])
      ('<' :: '/' :: tag ++ ['>']) :=
    (Adds.piece ['<', '/']).andThen ((Adds.piece tag).andThen (Adds.piece ['>']))
  cases e with
  | absent => exact Adds.none
  | inline => exact htag
  | ownLine =>
    intro b
    rw [write, List.append_assoc]
    exact (Adds.newline indent).andThen htag b

end Layout

/-! ## Trees -/

mutual

/-- A node written into a buffer. -/
def Node.write (o : Options) (p : Place String) : Node → Buffer → Buffer
  | .text value, b =>
    Layout.writeText o p.indent (p.inPre || o.preserves p.nearestTag) value.toList b
  | .comment data, b => Layout.writeComment p.indent data.toList b
  | .element tag attributes children, b =>
    let kind := Kind.ofName tag
    let hasChildren := !children.isEmpty
    let closed := Layout.closesItself o kind hasChildren
    let inner := p.within tag
    let opened := Layout.writeAttributes o p.indent closed
      (attributes.map fun (name, value) => Layout.attributeText o name.toList value.toList)
      (Layout.writeOpenTag p.indent p.inPre tag.toList b)
    if closed then opened
    else
      (Layout.endTag o kind (o.preserves tag) hasChildren inner.inPre).writeTo p.indent tag.toList
        (writeNodes o inner children opened)

/-- Nodes side by side written into a buffer, one after the other. -/
def writeNodes (o : Options) (p : Place String) : List Node → Buffer → Buffer
  | [], b => b
  | node :: more, b => writeNodes o p more (node.write o p b)

end

mutual

/-- A node adds what it contributes to the outline. -/
theorem Node.adds_write (o : Options) (p : Place String) :
    (node : Node) → Buffer.Adds (node.write o p) (node.outline o p)
  | .text value => by
    intro b
    rw [Node.write, Node.outline]
    exact Layout.adds_writeText _ _ _ _ b
  | .comment data => by
    intro b
    rw [Node.write, Node.outline]
    exact Layout.adds_writeComment _ _ b
  | .element tag attributes children => by
    intro b
    rw [Node.write, Node.outline]
    dsimp only
    have hopened := (Layout.adds_writeOpenTag p.indent p.inPre tag.toList).andThen
      (Layout.adds_writeAttributes o p.indent
        (Layout.closesItself o (.ofName tag) (!children.isEmpty))
        (attributes.map fun (name, value) => Layout.attributeText o name.toList value.toList))
    split
    · rw [List.append_nil]
      exact hopened b
    · have hcontent := (adds_writeNodes o (p.within tag) children).andThen
        ((Layout.endTag o (.ofName tag) (o.preserves tag) (!children.isEmpty)
          (p.within tag).inPre).adds_writeTo p.indent tag.toList)
      exact hopened.andThen hcontent b

/-- Nodes side by side add what they contribute to the outline. -/
theorem adds_writeNodes (o : Options) (p : Place String) :
    (ns : List Node) → Buffer.Adds (writeNodes o p ns) (outlines o p ns)
  | [] => by
    intro b
    rw [writeNodes, outlines]
    exact Buffer.Adds.none b
  | node :: more => by
    intro b
    rw [writeNodes, outlines]
    exact (node.adds_write o p).andThen (adds_writeNodes o p more) b

end

/-- A fragment written into an empty buffer. -/
def Fragment.write (o : Options) (f : Fragment) : Buffer :=
  writeNodes o Place.topLevel f.children {}

/-- A buffer holds the outline of a fragment once the fragment has been written into it. -/
theorem Fragment.build_write (o : Options) (f : Fragment) :
    String.ofList (Text.trim (f.write o).build) = f.render o := by
  have hempty : Buffer.build {} = [] := rfl
  rw [write, adds_writeNodes, hempty, List.nil_append, render]

end MarkupOutline
