import MarkupOutline.Markup
import MarkupOutline.Proofs.Render.Locality
import MarkupOutline.Proofs.Render.Plain
import MarkupOutline.Proofs.Text.Unescaping

/-!
# Changes of text that show

Where a text stands in a tree decides whether a change of it can be seen in the rendering. An
element that closes itself although it has children hides them: shapes do so unless end tags are
asked for, and void elements do so in one style. Outside of such elements every change of the
visible characters of a text changes the rendering, under all options; inside of one no change does.

A text that is not hidden contributes its visible characters between two parts that do not depend
on it, since the rendering shows what plain markup shows. A hidden one is not visited at all.
-/

namespace MarkupOutline

open Text

/-! ## Visible characters of escaped text -/

/-- What is written for a visible character is visible. -/
theorem Text.visible_escapeChar {c : Char} (h : isBlank c = false) :
    visible (escapeChar c) = escapeChar c := by
  have hreferences : ∀ c ∈ specials, visible (escapeChar c) = escapeChar c :=
    forall_mem_specials.2 (by decide)
  by_cases hc : c ∈ specials
  · exact hreferences c hc
  · rw [escapeChar_of_not_mem hc, visible_cons, h, if_neg Bool.false_ne_true, visible_nil]

/-- Escaping and leaving out white space can change places. -/
theorem Text.visible_escape (s : List Char) : visible (escape s) = escape (visible s) := by
  induction s with
  | nil => rfl
  | cons c rest ih =>
    rw [escape_cons, visible_append, ih, visible_cons]
    cases h : isBlank c with
    | true => rw [escapeChar_of_isBlank h, visible_cons, h, if_pos rfl, if_pos rfl]; rfl
    | false => rw [visible_escapeChar h, if_neg Bool.false_ne_true, escape_cons]

/-- Plain text nodes show the same exactly when their texts do. -/
theorem Node.visible_plain_text_inj (o : Options) (v w : String) :
    visible ((Node.text v).plain o) = visible ((Node.text w).plain o) ↔
      visible v.toList = visible w.toList := by
  rw [Node.plain, Node.plain]
  split
  · rw [visible_escape, visible_escape, escape_inj]
  · exact Iff.rfl

/-! ## Elements that hide their children -/

/-- A tag whose element writes its children when it has some. -/
structure Options.ShowsContent (o : Options) (tag : String) : Prop where
  /-- Shapes close themselves unless end tags are asked for. -/
  shape : tag ∈ shapeNames → o.voidElements = .closingTag
  /-- Void elements close themselves in one style. -/
  void : tag ∈ voidNames → o.voidElements ≠ .xhtml

instance (o : Options) (tag : String) : Decidable (o.ShowsContent tag) :=
  decidable_of_iff ((tag ∈ shapeNames → o.voidElements = .closingTag) ∧
    (tag ∈ voidNames → o.voidElements ≠ .xhtml))
    ⟨fun ⟨h₁, h₂⟩ => ⟨h₁, h₂⟩, fun ⟨h₁, h₂⟩ => ⟨h₁, h₂⟩⟩

/-- An element with children closes itself exactly when it hides them. -/
theorem Options.showsContent_iff (o : Options) (tag : String) :
    o.ShowsContent tag ↔ Layout.closesItself o (.ofName tag) true = false := by
  have hshape : (Kind.ofName tag).shape = decide (tag ∈ shapeNames) := by
    rw [Bool.eq_iff_iff, Kind.shape_ofName, decide_eq_true_iff]
  have hvoid : (Kind.ofName tag).void = decide (tag ∈ voidNames) := by
    rw [Bool.eq_iff_iff, Kind.void_ofName, decide_eq_true_iff]
  rw [Layout.closesItself, hshape, hvoid]
  constructor
  · rintro ⟨hs, hv⟩
    by_cases h₁ : tag ∈ shapeNames <;> by_cases h₂ : tag ∈ voidNames <;> simp_all
  · intro h
    constructor <;> intro hmem <;> cases hstyle : o.voidElements <;> simp_all

/-- Plain nodes side by side. -/
@[simp] theorem plains_append (o : Options) (before after : List Node) :
    plains o (before ++ after) = plains o before ++ plains o after := by
  induction before with
  | nil => rfl
  | cons node more ih => rw [List.cons_append, plains, ih, plains, List.append_assoc]

namespace Context

variable {o : Options}

/-- In plain markup a node that is not hidden stands between two texts that do not depend on it. -/
theorem exists_plains_fill : ∀ c : Context, (∀ tag ∈ c.enclosing, o.ShowsContent tag) →
    ∃ front back, ∀ node, plains o (c.fill node) = front ++ node.plain o ++ back
  | slot before after, _ => by
    refine ⟨plains o before, plains o after, fun node => ?_⟩
    rw [fill, plains_append, plains, List.append_assoc]
  | within before tag attributes content after, h => by
    have htag : o.ShowsContent tag := h tag (by simp [enclosing])
    obtain ⟨front, back, hcontent⟩ :=
      exists_plains_fill content fun t ht => h t (by simp [enclosing, ht])
    have hopen (node : Node) :
        Layout.closesItself o (.ofName tag) (!(content.fill node).isEmpty) = false := by
      rw [List.isEmpty_eq_false_iff.2 (fill_ne_nil node content)]
      exact (o.showsContent_iff tag).1 htag
    refine ⟨plains o before ++ ('<' :: tag.toList ++ attributes.flatMap (plainAttribute o)) ++
      '>' :: front, back ++ (if tag ∈ voidNames ∧ o.voidElements ≠ .closingTag then []
        else '<' :: '/' :: tag.toList ++ ['>']) ++ plains o after, fun node => ?_⟩
    rw [fill, plains_append, plains, Node.plain, hopen node, hcontent node]
    simp only [Bool.false_eq_true, if_false, List.append_assoc, List.cons_append]

/-- A hidden node has no effect on the outline. -/
theorem outlines_fill_eq (node other : Node) : ∀ (c : Context) (p : Place String),
    ¬ (∀ tag ∈ c.enclosing, o.ShowsContent tag) →
    outlines o p (c.fill node) = outlines o p (c.fill other)
  | slot before after, p, h => absurd (fun tag ht => absurd ht List.not_mem_nil) h
  | within before tag attributes content after, p, h => by
    have hne : (content.fill node).isEmpty = (content.fill other).isEmpty := by
      rw [List.isEmpty_eq_false_iff.2 (fill_ne_nil node content),
        List.isEmpty_eq_false_iff.2 (fill_ne_nil other content)]
    rw [fill, fill, outlines_append, outlines_append, outlines, outlines, Node.outline,
      Node.outline, hne]
    by_cases htag : o.ShowsContent tag
    · -- The element that hides the node is further inside.
      have hcontent : ¬ ∀ t ∈ content.enclosing, o.ShowsContent t := by
        intro hall
        refine h fun t ht => ?_
        rcases List.mem_cons.1 ht with rfl | ht
        · exact htag
        · exact hall t ht
      rw [outlines_fill_eq node other content _ hcontent]
    · -- The element closes itself, so its children are not written.
      have hclosed :
          Layout.closesItself o (.ofName tag) (!(content.fill other).isEmpty) = true := by
        rw [List.isEmpty_eq_false_iff.2 (fill_ne_nil other content)]
        rw [o.showsContent_iff tag, Bool.not_eq_false] at htag
        exact htag
      simp only [hclosed, if_true]

end Context

/-! ## Changes of text -/

/-- Two fragments that differ in one text, of which different characters are visible, are rendered
differently under any options exactly if no element around the text hides its children. -/
theorem Fragment.render_ne_iff_showsContent (o : Options) (c : Context) {v w : String}
    (hvisible : visible v.toList ≠ visible w.toList) :
    Fragment.render o ⟨c.fill (.text v)⟩ ≠ Fragment.render o ⟨c.fill (.text w)⟩ ↔
      ∀ tag ∈ c.enclosing, o.ShowsContent tag := by
  constructor
  · intro hne
    by_contra hhidden
    refine hne ?_
    rw [Fragment.render, Fragment.render, c.outlines_fill_eq _ (.text w) _ hhidden]
  · intro hshown heq
    obtain ⟨front, back, hplain⟩ := c.exists_plains_fill hshown
    have hsame := congrArg (fun s => visible s.toList) heq
    simp only [Fragment.visible_render, hplain, visible_append] at hsame
    have htext := List.append_cancel_left (List.append_cancel_right hsame)
    exact hvisible ((Node.visible_plain_text_inj o v w).1 htext)

/-- A change of the text in a bold part of a paragraph shows. -/
theorem Fragment.render_ne_paragraph :
    let c := Context.within [.comment "head"] "p" [("id", "a")]
      (.within [.text "one "] "b" [] (.slot [] [.element "br" [] []]) [.text " & three"]) []
    visible "two".toList ≠ visible "t wo <".toList ∧
      (∀ tag ∈ c.enclosing, Options.default.ShowsContent tag) ∧
      Fragment.render .default ⟨c.fill (.text "two")⟩ ≠
        Fragment.render .default ⟨c.fill (.text "t wo <")⟩ := by
  intro c
  have hvisible : visible "two".toList ≠ visible "t wo <".toList := by decide
  have hshown : ∀ tag ∈ c.enclosing, Options.default.ShowsContent tag := by decide
  exact ⟨hvisible, hshown, (render_ne_iff_showsContent .default c hvisible).2 hshown⟩

/-- A change of the text in a shape or in a void element of a graphic does not show. -/
theorem Fragment.render_eq_graphic :
    let path := Context.within [] "svg" [] (.within [] "path" [] (.slot [] []) []) []
    let link := Context.within [] "svg" [] (.within [] "link" [] (.slot [] []) []) []
    Fragment.ofMarkup "<svg><path>x</path></svg>" = .ok ⟨path.fill (.text "x")⟩ ∧
      Fragment.ofMarkup "<svg><path>y</path></svg>" = .ok ⟨path.fill (.text "y")⟩ ∧
      Fragment.ofMarkup "<svg><link>x</link></svg>" = .ok ⟨link.fill (.text "x")⟩ ∧
      Fragment.ofMarkup "<svg><link>y</link></svg>" = .ok ⟨link.fill (.text "y")⟩ ∧
      visible "x".toList ≠ visible "y".toList ∧
      Fragment.render .default ⟨path.fill (.text "x")⟩ =
        Fragment.render .default ⟨path.fill (.text "y")⟩ ∧
      Fragment.render .default ⟨link.fill (.text "x")⟩ =
        Fragment.render .default ⟨link.fill (.text "y")⟩ := by
  decide +kernel

end MarkupOutline
