import MarkupOutline.Proofs.Render.Markup
import MarkupOutline.Proofs.Render.Payload
import MarkupOutline.Proofs.Text.Unescaping

/-!
# When text is escaped

Text goes through three steps when it is written: blank text is dropped, the rest is escaped, and
what is not verbatim is trimmed. Escaping may as well come before the two other steps or behind
them. If it comes first, for all texts of a tree, the tree can be rendered without it
(`Fragment.render_withEscapes`). If it comes last, what is escaped is the text as it is written
without escaping, so that this text is read back from the output
(`unescape_outline_text`).

`escape_encodes_and_trims` puts this together with what is known of escaping by itself.
-/

namespace MarkupOutline

open Text

/-! ## Trees whose texts are escaped -/

/-- The same options, but text content is not escaped. -/
def Options.unescaped (o : Options) : Options := { o with escapeInnerText := false }

mutual

/-- A node with the texts in it escaped. -/
def Node.withEscapes : Node → Node
  | .text value => .text (String.ofList (escape value.toList))
  | .comment data => .comment data
  | .element tag attributes children => .element tag attributes (withEscapes children)

/-- Nodes side by side with the texts among them and in them escaped. -/
def withEscapes : List Node → List Node
  | [] => []
  | node :: more => node.withEscapes :: withEscapes more

end

/-- Nodes are still there when their texts have been escaped. -/
theorem isEmpty_withEscapes (nodes : List Node) :
    (withEscapes nodes).isEmpty = nodes.isEmpty := by
  cases nodes <;> rfl

/-! ## Escaping before and behind the other steps -/

section Text

variable {o : Options} {p : Place String}

/-- Without escaping, a text is written as its characters. -/
theorem Node.outline_text_unescaped (value : String) :
    (Node.text value).outline o.unescaped p = Layout.writtenText o p value.toList := rfl

/-- What is written for a text is read as its characters. -/
theorem unescape_outline_text (hescape : o.escapeInnerText = true) (value : String) :
    unescape ((Node.text value).outline o p) = Layout.writtenText o p value.toList := by
  rw [Node.outline_text hescape, unescape_escape]

/-- The characters that are written show what the text shows. -/
theorem visible_writtenText (value : List Char) :
    visible (Layout.writtenText o p value) = visible value := by
  unfold Layout.writtenText
  split
  · next hblank => rw [(visible_eq_nil_iff value).2 hblank, visible_nil]
  · split
    · rfl
    · rw [visible_append, Layout.visible_newline, visible_trim, List.nil_append]

end Text

mutual

/-- A node is written as it is without escaping once its texts have been escaped. -/
theorem Node.outline_withEscapes (o : Options) (hescape : o.escapeInnerText = true) :
    ∀ (node : Node) (p : Place String),
      node.withEscapes.outline o.unescaped p = node.outline o p
  | .text value, p => by
    rw [Node.withEscapes, Node.outline_text_unescaped, String.toList_ofList, writtenText_escape,
      Node.outline_text hescape]
  | .comment data, p => rfl
  | .element tag attributes children, p => by
    have hcontent := outlines_withEscapes o hescape children (p.within tag)
    rw [Node.withEscapes, Node.outline, Node.outline, isEmpty_withEscapes, hcontent]
    rfl

/-- Nodes side by side are written as they are without escaping once their texts have been
escaped. -/
theorem outlines_withEscapes (o : Options) (hescape : o.escapeInnerText = true) :
    ∀ (nodes : List Node) (p : Place String),
      outlines o.unescaped p (withEscapes nodes) = outlines o p nodes
  | [], _ => rfl
  | node :: more, p => by
    rw [withEscapes, outlines, outlines, Node.outline_withEscapes o hescape node p,
      outlines_withEscapes o hescape more p]

end

/-- Rendering a tree is rendering the tree whose texts have been escaped, without escaping. -/
theorem Fragment.render_withEscapes (o : Options) (hescape : o.escapeInnerText = true)
    (f : Fragment) : Fragment.render o.unescaped ⟨withEscapes f.children⟩ = f.render o := by
  rw [Fragment.render, Fragment.render, outlines_withEscapes o hescape]

/-- Escaping writes each special character as its reference and every other character as it stands,
so texts are escaped piece by piece, and no reference is escaped again. The result has no angle
bracket and no quote, and one pass over it gives the text back, so different texts are escaped
differently. Escaping commutes with trimming and leaves blank texts blank and visible ones visible.
So it does not matter to the rendering whether texts are escaped before the other steps or in
between, and what is written for a text shows its characters once it has been read back. -/
theorem escape_encodes_and_trims (s t : List Char) :
    escape s = s.flatMap escapeChar ∧ escape (s ++ t) = escape s ++ escape t ∧
      (escape s).count '&' = s.countP (· ∈ specials) ∧
      (∀ c ∈ escape s, c ∉ ['<', '>', '"', '\'']) ∧ unescape (escape s) = s ∧
      (escape s = escape t ↔ s = t) ∧ (escape s = t ↔ IsEscaped t ∧ unescape t = s) ∧
      trim (escape s) = escape (trim s) ∧ (allBlank (escape s) = true ↔ allBlank s = true) ∧
      ∀ o : Options, o.escapeInnerText = true →
        (∀ p : Place String,
          unescape ((Node.text (String.ofList s)).outline o p) = Layout.writtenText o p s ∧
            visible (Layout.writtenText o p s) = visible s) ∧
        ∀ f : Fragment, Fragment.render o.unescaped ⟨withEscapes f.children⟩ = f.render o := by
  have hblank : allBlank (escape s) = true ↔ allBlank s = true := by rw [allBlank_escape]
  refine ⟨escape_eq_flatMap s, escape_append s t, count_escape s, (isEscaped_escape s).plain,
    unescape_escape s, escape_inj, escape_eq_iff, trim_escape s, hblank, fun o hescape =>
      ⟨fun p => ⟨?_, visible_writtenText s⟩, Fragment.render_withEscapes o hescape⟩⟩
  rw [unescape_outline_text hescape, String.toList_ofList]

/-- A text with a tag, a reference and white space at both ends, and its escaped form as another
text; both in a fragment, where the first is in a link. -/
theorem escape_encodes_and_trims_tag :
    let s := " <b title=\"a\">\n &lt; 'c'\u00a0".toList
    let t := " &lt;b title=&quot;a&quot;&gt;\n &amp;lt; &#x27;c&#x27;\u00a0".toList
    let o := Options.default
    let p : Place String := ⟨2, "p", 0⟩
    let f : Fragment := ⟨[.element "a" [] [.text (String.ofList s)], .text (String.ofList t)]⟩
    escape s = t ∧ o.escapeInnerText = true ∧
      escape s = s.flatMap escapeChar ∧ escape (s ++ t) = escape s ++ escape t ∧
      (escape s).count '&' = s.countP (· ∈ specials) ∧
      (∀ c ∈ escape s, c ∉ ['<', '>', '"', '\'']) ∧ unescape (escape s) = s ∧
      (escape s = escape t ↔ s = t) ∧ (escape s = t ↔ IsEscaped t ∧ unescape t = s) ∧
      trim (escape s) = escape (trim s) ∧ (allBlank (escape s) = true ↔ allBlank s = true) ∧
      unescape ((Node.text (String.ofList s)).outline o p) = Layout.writtenText o p s ∧
      visible (Layout.writtenText o p s) = visible s ∧
      Fragment.render o.unescaped ⟨withEscapes f.children⟩ = f.render o := by
  intro s t o p f
  have hwritten : escape s = t := by decide
  have hescape : o.escapeInnerText = true := rfl
  obtain ⟨hchars, happend, hcount, hplain, hread, hinj, hlook, htrim, hblank, hrender⟩ :=
    escape_encodes_and_trims s t
  obtain ⟨htext, hfragment⟩ := hrender o hescape
  exact ⟨hwritten, hescape, hchars, happend, hcount, hplain, hread, hinj, hlook, htrim, hblank,
    (htext p).1, (htext p).2, hfragment f⟩

end MarkupOutline
