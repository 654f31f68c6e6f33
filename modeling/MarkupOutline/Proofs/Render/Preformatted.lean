import MarkupOutline.Proofs.Render.Ancestors
import MarkupOutline.Proofs.Render.Hiding

/-!
# Preformatted content

An outline is made up of tags with their attributes, comments, and the characters between them
(`Node.pieces`). When the tags and the comments are taken out of preformatted content, the texts are
left as they stand, with nothing put between them, except that every comment leaves a line break and
the indentation of its depth: open tags and end tags ask whether they stand in preformatted content
before they begin a new line, and comments do not. So exactly the texts are left if and only if no
comment is written (`Fragment.render_preformatted`).
-/

namespace MarkupOutline

open Text

/-! ## Pieces of an outline -/

/-- A piece of an outline. -/
inductive Piece where
  /-- An open tag with its attributes and its bracket. -/
  | openTag (indent : Int) (closed : Bool) (tag : String) (attributes : List (String × String))
  /-- An end tag. -/
  | endTag (tag : String)
  /-- A comment with its delimiters. -/
  | comment (indent : Int) (data : String)
  /-- Characters between tags and comments. -/
  | between (characters : List Char)
  deriving Repr

namespace Piece

/-- A piece as it is written. -/
def write (o : Options) : Piece → List Char
  | openTag indent closed tag attributes =>
    '<' :: tag.toList ++ Layout.attributeList o indent closed
      (attributes.map fun (name, value) => Layout.attributeText o name.toList value.toList)
  | endTag tag => '<' :: '/' :: tag.toList ++ ['>']
  | comment indent data => "<!--".toList ++ Layout.payload indent data.toList ++ "-->".toList
  | between characters => characters

/-- What is left of a piece when tags and comments are taken out. -/
def leftOver : Piece → List Char
  | between characters => characters
  | _ => []

end Piece

/-- The pieces of an end tag. -/
def Layout.EndTag.pieces (indent : Int) (tag : String) : EndTag → List Piece
  | absent => []
  | inline => [.endTag tag]
  | ownLine => [.between (newline indent), .endTag tag]

mutual

/-- The pieces that a node contributes to the output at a place. -/
def Node.pieces (o : Options) (p : Place String) : Node → List Piece
  | .text value =>
    [.between (Layout.text o p.indent (p.inPre || o.preserves p.nearestTag) value.toList)]
  | .comment data => [.between (newline p.indent), .comment p.indent data]
  | .element tag attributes children =>
    let kind := Kind.ofName tag
    let hasChildren := !children.isEmpty
    let closed := Layout.closesItself o kind hasChildren
    let inner := p.within tag
    .between (if p.inPre then [] else newline p.indent) ::
      .openTag p.indent closed tag attributes ::
      if closed then []
      else
        piecesOf o inner children ++
          (Layout.endTag o kind (o.preserves tag) hasChildren inner.inPre).pieces p.indent tag

/-- The pieces that nodes side by side contribute, one after the other. -/
def piecesOf (o : Options) (p : Place String) : List Node → List Piece
  | [] => []
  | node :: more => node.pieces o p ++ piecesOf o p more

end

/-- The pieces of an end tag make up the end tag. -/
theorem Layout.EndTag.flatMap_write_pieces (o : Options) (indent : Int) (tag : String)
    (e : EndTag) : (e.pieces indent tag).flatMap (Piece.write o) = e.write indent tag.toList := by
  cases e <;> simp [pieces, Piece.write, write]

mutual

/-- The pieces of a node make up its outline. -/
theorem Node.flatMap_write_pieces (o : Options) (p : Place String) :
    (node : Node) → (node.pieces o p).flatMap (Piece.write o) = node.outline o p
  | .text value => by
    rw [Node.pieces, Node.outline, List.flatMap_singleton, Piece.write]
  | .comment data => by
    simp [Node.pieces, Node.outline, Layout.comment, Piece.write]
  | .element tag attributes children => by
    have hchildren := flatMap_write_piecesOf o (p.within tag) children
    rw [Node.pieces, Node.outline, Layout.openTag]
    simp only [List.flatMap_cons, Piece.write, List.append_assoc]
    -- The tag is written alike, so it remains to compare what is behind it.
    congr 3
    split
    · rfl
    · rw [List.flatMap_append, hchildren, Layout.EndTag.flatMap_write_pieces]

/-- The pieces of nodes side by side make up their outline. -/
theorem flatMap_write_piecesOf (o : Options) (p : Place String) :
    (nodes : List Node) → (piecesOf o p nodes).flatMap (Piece.write o) = outlines o p nodes
  | [] => rfl
  | node :: more => by
    rw [piecesOf, outlines, List.flatMap_append, Node.flatMap_write_pieces o p node,
      flatMap_write_piecesOf o p more]

end

/-! ## Texts and comments that are written -/

/-- A text or a comment in a tree. -/
inductive Leaf where
  | text (value : String)
  /-- A comment, with the depth at which it stands. -/
  | comment (indent : Int) (data : String)
  deriving DecidableEq, Repr

namespace Leaf

/-- The characters of a text, escaped or not. Blank text has none that count. -/
def characters (o : Options) : Leaf → List Char
  | text value =>
    if allBlank value.toList then []
    else if o.escapeInnerText then escape value.toList else value.toList
  | comment _ _ => []

/-- The line break in front of a comment, with the indentation behind it. -/
def lineBreak : Leaf → List Char
  | text _ => []
  | comment indent _ => newline indent

/-- Whether it is a comment. -/
def isComment : Leaf → Bool
  | text _ => false
  | comment _ _ => true

end Leaf

mutual

/-- The texts and comments that are visited in a node at a depth, in document order. Those in an
element that closes itself are not visited. -/
def Node.leaves (o : Options) (indent : Int) : Node → List Leaf
  | .text value => [.text value]
  | .comment data => [.comment indent data]
  | .element tag _ children =>
    if Layout.closesItself o (.ofName tag) (!children.isEmpty) then []
    else leavesOf o (indent + 1) children

/-- The texts and comments that are visited in nodes side by side. -/
def leavesOf (o : Options) (indent : Int) : List Node → List Leaf
  | [] => []
  | node :: more => node.leaves o indent ++ leavesOf o indent more

end

/-! ## What is left of preformatted content -/

/-- No end tag in preformatted content leaves anything. -/
theorem Layout.EndTag.flatMap_leftOver_pieces (o : Options) (kind : Kind)
    (preserved hasChildren : Bool) (indent : Int) (tag : String) :
    ((Layout.endTag o kind preserved hasChildren true).pieces indent tag).flatMap Piece.leftOver =
      [] := by
  unfold Layout.endTag
  dsimp only
  split
  · rfl
  · rw [if_pos (Bool.or_true _)]
    rfl

mutual

/-- A node in preformatted content leaves its texts as they stand, and the line breaks of its
comments. -/
theorem Node.flatMap_leftOver_pieces (o : Options) :
    ∀ (node : Node) (p : Place String), p.inPre = true →
      (node.pieces o p).flatMap Piece.leftOver =
        (node.leaves o p.indent).flatMap fun leaf => leaf.lineBreak ++ leaf.characters o
  | .text value, p, hp => by
    rw [Node.pieces, Node.leaves, List.flatMap_singleton, List.flatMap_singleton, hp, Bool.true_or,
      Piece.leftOver, Layout.text, Leaf.lineBreak, Leaf.characters]
    rfl
  | .comment data, p, _ => by
    simp [Node.pieces, Node.leaves, Piece.leftOver, Leaf.lineBreak, Leaf.characters]
  | .element tag attributes children, p, hp => by
    have hinner : (p.within tag).inPre = true := Place.inPre_enter p tag _ hp
    have hchildren := flatMap_leftOver_piecesOf o children (p.within tag) hinner
    have hindent : (p.within tag).indent = p.indent + 1 := rfl
    rw [Node.pieces, Node.leaves, hp, hinner]
    simp only [List.flatMap_cons, Piece.leftOver, if_true, List.nil_append]
    split
    · rfl
    · rw [List.flatMap_append, hchildren, Layout.EndTag.flatMap_leftOver_pieces, List.append_nil,
        hindent]

/-- Nodes side by side in preformatted content leave their texts as they stand, and the line breaks
of their comments. -/
theorem flatMap_leftOver_piecesOf (o : Options) :
    ∀ (nodes : List Node) (p : Place String), p.inPre = true →
      (piecesOf o p nodes).flatMap Piece.leftOver =
        (leavesOf o p.indent nodes).flatMap fun leaf => leaf.lineBreak ++ leaf.characters o
  | [], _, _ => rfl
  | node :: more, p, hp => by
    rw [piecesOf, leavesOf, List.flatMap_append, List.flatMap_append,
      Node.flatMap_leftOver_pieces o node p hp, flatMap_leftOver_piecesOf o more p hp]

end

/-- Line breaks make a text no shorter. -/
theorem length_flatMap_characters_le (o : Options) (leaves : List Leaf) :
    (leaves.flatMap (Leaf.characters o)).length ≤
      (leaves.flatMap fun leaf => leaf.lineBreak ++ leaf.characters o).length := by
  induction leaves with
  | nil => exact Nat.le_refl 0
  | cons leaf more ih =>
    simp only [List.flatMap_cons, List.length_append]
    omega

/-- The texts are left alone, without line breaks, exactly if there is no comment. -/
theorem flatMap_lineBreak_eq_iff (o : Options) (leaves : List Leaf) :
    (leaves.flatMap fun leaf => leaf.lineBreak ++ leaf.characters o) =
        leaves.flatMap (Leaf.characters o) ↔
      ∀ leaf ∈ leaves, leaf.isComment = false := by
  induction leaves with
  | nil => simp
  | cons leaf more ih =>
    rw [List.forall_mem_cons, ← ih, List.flatMap_cons, List.flatMap_cons]
    cases leaf with
    | text value => simp [Leaf.lineBreak, Leaf.isComment]
    | comment indent data =>
      -- The line break of a comment makes the left side longer than the right one can be.
      have hmore := length_flatMap_characters_le o more
      refine ⟨fun heq => ?_, fun ⟨hcomment, _⟩ => absurd hcomment (by simp [Leaf.isComment])⟩
      have hcount : (newline indent ++ [] ++ more.flatMap fun leaf : Leaf =>
          leaf.lineBreak ++ leaf.characters o).length =
          ([] ++ more.flatMap (Leaf.characters o)).length := congrArg List.length heq
      simp only [newline, List.length_append, List.length_cons, List.length_nil] at hcount
      omega

/-! ## Preformatted elements in a fragment -/

/-- A preformatted element that does not close itself is written as its open tag, its content and
its end tag. -/
theorem Node.outline_preformatted (o : Options) (tags : List String)
    (attributes : List (String × String)) {content : List Node}
    (hopen : content ≠ [] ∨ o.selfClosingTag = false) :
    (Node.element preTag attributes content).outline o (Place.under tags) =
      (if (Place.under tags).inPre then [] else newline tags.length) ++
        ((Piece.openTag tags.length false preTag attributes).write o ++
          outlines o (Place.under (tags ++ [preTag])) content ++
          (Piece.endTag preTag).write o) := by
  have hkind : Kind.ofName preTag = .plain := by decide
  have hclosed : Layout.closesItself o .plain (!content.isEmpty) = false := by
    rcases hopen with hne | hstyle
    · simp [Layout.closesItself, Kind.plain, hne]
    · simp [Layout.closesItself, Kind.plain, hstyle]
  have hinner := Place.inPre_under_append_preTag tags
  have hend : Layout.endTag o .plain (o.preserves preTag) (!content.isEmpty) true = .inline := by
    simp [Layout.endTag, Kind.plain]
  rw [Node.outline]
  simp only [hkind, hclosed, Place.within_under, hinner, hend, Bool.false_eq_true, if_false,
    Place.indent_under, Layout.openTag, Layout.EndTag.write, Piece.write, List.append_assoc]

/-- The outline of a filled context falls into three parts if no element around the slot hides its
children. -/
theorem Context.exists_outlines_fill {o : Options} : ∀ (c : Context) (tags : List String),
    (∀ tag ∈ c.enclosing, o.ShowsContent tag) →
    ∃ front back, ∀ node, outlines o (Place.under tags) (c.fill node) =
      front ++ node.outline o (Place.under (tags ++ c.enclosing)) ++ back
  | slot before after, tags, _ => by
    refine ⟨outlines o (Place.under tags) before, outlines o (Place.under tags) after,
      fun node => ?_⟩
    rw [fill, outlines_append, outlines, enclosing, List.append_nil, List.append_assoc]
  | within before tag attributes content after, tags, h => by
    have htag : o.ShowsContent tag := h tag (by simp [enclosing])
    obtain ⟨front, back, hcontent⟩ :=
      exists_outlines_fill content (tags ++ [tag]) fun t ht => h t (by simp [enclosing, ht])
    have hchildren (node : Node) : (!(content.fill node).isEmpty) = true := by
      rw [List.isEmpty_eq_false_iff.2 (fill_ne_nil node content)]
      rfl
    let p := Place.under tags
    refine ⟨outlines o p before ++ (Layout.openTag p.indent p.inPre tag.toList ++
        (Layout.attributeList o p.indent false
          (attributes.map fun (name, value) => Layout.attributeText o name.toList value.toList) ++
        front)),
      back ++ ((Layout.endTag o (.ofName tag) (o.preserves tag) true (p.within tag).inPre).write
        p.indent tag.toList ++ outlines o p after), fun node => ?_⟩
    rw [fill, outlines_append, outlines, Node.outline]
    simp only [hchildren node, (o.showsContent_iff tag).1 htag, Place.within_under, hcontent node,
      Bool.false_eq_true, if_false, List.append_assoc, enclosing, List.singleton_append, p]

/-- A preformatted element that is visited and does not close itself is rendered as its open tag,
the pieces of its content and its end tag. When the tags and the comments are taken out of the
content, its texts are left as they stand, in document order, with a line break and the indentation
of its depth for every comment among them. So the texts alone are left if and only if no comment is
written in the content. -/
theorem Fragment.render_preformatted (o : Options) (c : Context)
    (attributes : List (String × String)) (content : List Node)
    (hshown : ∀ tag ∈ c.enclosing, o.ShowsContent tag)
    (hopen : content ≠ [] ∨ o.selfClosingTag = false) :
    let depth := c.enclosing.length
    let region := piecesOf o (Place.under (c.enclosing ++ [preTag])) content
    let leaves := leavesOf o (depth + 1) content
    (∃ front back, (Fragment.render o ⟨c.fill (.element preTag attributes content)⟩).toList =
        front ++ ((Piece.openTag depth false preTag attributes).write o ++
          region.flatMap (Piece.write o) ++ (Piece.endTag preTag).write o) ++ back) ∧
      (region.flatMap Piece.leftOver =
        leaves.flatMap fun leaf => leaf.lineBreak ++ leaf.characters o) ∧
      (region.flatMap Piece.leftOver = leaves.flatMap (Leaf.characters o) ↔
        ∀ leaf ∈ leaves, leaf.isComment = false) := by
  intro depth region leaves
  have hleft : region.flatMap Piece.leftOver =
      leaves.flatMap fun leaf => leaf.lineBreak ++ leaf.characters o := by
    have hinner := Place.inPre_under_append_preTag c.enclosing
    have hindent : (Place.under (c.enclosing ++ [preTag])).indent = depth + 1 := by
      rw [Place.indent_under, List.length_append, List.length_singleton]
      rfl
    rw [flatMap_leftOver_piecesOf o content _ hinner, hindent]
  refine ⟨?_, hleft, ?_⟩
  · obtain ⟨front, back, hfill⟩ := c.exists_outlines_fill [] hshown
    rw [Fragment.render, String.toList_ofList, flatMap_write_piecesOf]
    have hparts := hfill (.element preTag attributes content)
    rw [List.nil_append, Node.outline_preformatted o c.enclosing attributes hopen,
      ← List.append_assoc front] at hparts
    -- The element begins and ends with a bracket, so trimming the document leaves it whole.
    have hstart : StartsVisibly ((Piece.openTag depth false preTag attributes).write o ++
        outlines o (Place.under (c.enclosing ++ [preTag])) content ++
        (Piece.endTag preTag).write o) := ⟨'<', _, rfl, by decide⟩
    have hend : EndsVisibly ((Piece.openTag depth false preTag attributes).write o ++
        outlines o (Place.under (c.enclosing ++ [preTag])) content ++
        (Piece.endTag preTag).write o) :=
      EndsVisibly.append_left ⟨'<' :: '/' :: preTag.toList, '>', rfl, by decide⟩ _
    obtain ⟨front', back', htrim⟩ := exists_trim_append hstart hend
      (front ++ if (Place.under c.enclosing).inPre then [] else newline depth) back
    exact ⟨front', back', (congrArg trim hparts).trans htrim⟩
  · rw [hleft]
    exact flatMap_lineBreak_eq_iff o leaves

/-- Preformatted content in a division, with texts on both sides of a tag and of a void element. -/
theorem Fragment.render_preformatted_division :
    let c := Context.within [.text "head"] "div" [("id", "x")] (.slot [] [.element "p" [] []]) []
    let content := [.text " one\n  ", .element "b" [("id", "y"), ("class", "")] [.text "<two>"],
      .element "br" [] [], .text "\n", .text "three "]
    let depth := c.enclosing.length
    let region := piecesOf .default (Place.under (c.enclosing ++ [preTag])) content
    (∀ tag ∈ c.enclosing, Options.default.ShowsContent tag) ∧
      (content ≠ [] ∨ Options.default.selfClosingTag = false) ∧
      (∃ front back, (Fragment.render .default ⟨c.fill (.element preTag [] content)⟩).toList =
        front ++ ((Piece.openTag depth false preTag []).write .default ++
          region.flatMap (Piece.write .default) ++ (Piece.endTag preTag).write .default) ++ back) ∧
      region.flatMap Piece.leftOver = " one\n  &lt;two&gt;three ".toList := by
  intro c content depth region
  have hshown : ∀ tag ∈ c.enclosing, Options.default.ShowsContent tag := by decide
  have hopen : content ≠ [] ∨ Options.default.selfClosingTag = false := .inr rfl
  obtain ⟨hrender, -, hiff⟩ := render_preformatted .default c [] content hshown hopen
  have htexts : (leavesOf .default (depth + 1) content).flatMap (Leaf.characters .default) =
      " one\n  &lt;two&gt;three ".toList := by
    decide
  exact ⟨hshown, hopen, hrender, (hiff.2 (by decide)).trans htexts⟩

/-- A comment in preformatted content is written on a line of its own, so a line break and
indentation stand between the two texts around it. -/
theorem Fragment.render_preformatted_comment :
    let content := [Node.text "a", .comment "x", .text "b"]
    let region := piecesOf .default (Place.under [preTag]) content
    Fragment.ofMarkup "<pre>a<!--x-->b</pre>" = .ok ⟨[.element preTag [] content]⟩ ∧
      Fragment.render .default ⟨[.element preTag [] content]⟩ = "<pre>a\n  <!-- x -->b</pre>" ∧
      region.flatMap Piece.leftOver = "a\n  b".toList ∧
      (leavesOf .default 1 content).flatMap (Leaf.characters .default) = "ab".toList := by
  decide +kernel

end MarkupOutline
