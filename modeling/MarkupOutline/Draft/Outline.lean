import MarkupOutline.Draft.Basic
import MarkupOutline.Render.Outline

/-!
# Rendering of drafts

The outline of a tree in which nothing has been checked. The layout is that of well-formed trees;
what is new is that rendering can fail. Children that are not nodes, texts that are not texts and
attributes that are not pairs are found on the way through the tree, in document order. A tag or a
bare attribute name that is not a text is found only when the parts of the output are put together,
so any other fault comes first.
-/

namespace MarkupOutline

/-- Why a draft cannot be rendered. -/
inductive RenderFault where
  /-- Something that is not a node stands among the children. -/
  | foreign (typeName : String)
  /-- Character data or a comment payload is not a text. -/
  | notText
  /-- Children or attributes, or one attribute, have no items to go through. -/
  | notIterable
  /-- An attribute has not exactly two items. -/
  | notPair
  /-- A tag or an attribute name cannot be written. -/
  | unwritable
  deriving DecidableEq, Repr

/-- The message of a fault, none for those that have no wording of their own. -/
def RenderFault.message? : RenderFault → Option String
  | foreign typeName => some ("Cannot render object of type " ++ Text.quoted typeName)
  | _ => none

/-- What has been written, none once something had to be written that is not a text. -/
abbrev Written := Option (List Char)

/-- Two parts of the output, one after the other. -/
def Written.append (a b : Written) : Written :=
  match a, b with
  | some a, some b => some (a ++ b)
  | _, _ => none

namespace Draft

/-- A draft where a name is written: a text as it is, and nothing for a draft that counts as
false. -/
def written : Draft → Written
  | scalar (.str s) => some s.toList
  | other => if other.isTruthy then none else some []

/-- The class of an element with a given tag. A tag that is not a text is in no class. -/
def kind : Draft → Kind
  | scalar (.str s) => .ofName s
  | _ => .plain

/-- Whether text inside an element with a given tag keeps its white space. A tag that is not a text
is in no list of tags. -/
def preservedBy (o : Options) : Draft → Bool
  | scalar (.str s) => o.preserves s
  | _ => o.tagsWithWhitespacePreserved == .uniform true

/-- Whether a tag is that of preformatted content. -/
def isPre : Draft → Bool
  | scalar (.str s) => s = preTag
  | _ => false

/-- The text that a draft is, where it has to be one. -/
def expectText : Draft → Except RenderFault (List Char)
  | scalar (.str s) => .ok s.toList
  | _ => .error .notText

/-- The name and the value of an attribute. -/
def expectPair (d : Draft) : Except RenderFault (Draft × Draft) :=
  match d.items? with
  | some [name, value] => .ok (name, value)
  | some _ => .error .notPair
  | none => .error .notIterable

/-- One attribute. Only a bare name can turn out not to be writable. -/
def attributeText (o : Options) (name value : Draft) : Written :=
  if value.isTruthy || o.emptyAttributes then
    some (name.display.toList ++ '=' :: '"' :: value.display.toList ++ ['"'])
  else name.written

/-- The attributes of an element. -/
def attributeTexts (o : Options) (attributes : Draft) : Except RenderFault (List Written) :=
  if attributes.isTruthy then
    match attributes.items? with
    | none => .error .notIterable
    | some items =>
      items.mapM fun item => do
        let (name, value) ← item.expectPair
        pure (attributeText o name value)
  else .ok []

mutual

/-- What a draft contributes to the output at a place. -/
def outline (o : Options) (p : Place Draft) : Draft → Except RenderFault Written
  | text value => do
    let value ← value.expectText
    pure (some (Layout.text o p.indent (p.inPre || p.nearestTag.preservedBy o) value))
  | comment data => do
    let data ← data.expectText
    pure (some (Layout.comment p.indent data))
  | element tag attributes children => do
    let hasChildren := children.isTruthy
    let closed := Layout.closesItself o tag.kind hasChildren
    let inner := p.enter tag tag.isPre
    -- Attributes are gone through before the children, so a fault among them comes first.
    let attributes ← attributes.attributeTexts o
    let opening := Written.append (tag.written.map (Layout.openTag p.indent p.inPre))
      ((attributes.mapM id).map (Layout.attributeList o p.indent closed))
    -- The children of an element that closes itself are not looked at, whatever they are.
    if closed then pure opening
    else
      let content ← children.contents o inner
      let ending := Layout.endTag o tag.kind (tag.preservedBy o) hasChildren inner.inPre
      pure ((opening.append content).append (tag.written.map (ending.write p.indent)))
  | other => .error (.foreign other.typeName)

/-- What the children of a node contribute. A text in place of the children has its characters for
children, none of which is a node. -/
def contents (o : Options) (p : Place Draft) : Draft → Except RenderFault Written
  | tuple items => outlines o p items
  | scalar (.str s) => if s.isEmpty then .ok (some []) else .error (.foreign "str")
  | _ => .error .notIterable

/-- What drafts side by side contribute, one after the other. -/
def outlines (o : Options) (p : Place Draft) : List Draft → Except RenderFault Written
  | [] => .ok (some [])
  | item :: more => do
    let first ← item.outline o p
    let rest ← outlines o p more
    pure (first.append rest)

end

/-- The outline of a fragment, or of a single node as if it were the only one of a fragment. -/
def render (o : Options) (d : Draft) : Except RenderFault String := do
  let top := Place.top (str "")
  let parts ← match d with
    | fragment children => children.contents o top
    | node => node.outline o top
  match parts with
  | some s => pure (String.ofList (Text.trim s))
  | none => throw .unwritable

end Draft

end MarkupOutline
