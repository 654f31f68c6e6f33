import MarkupOutline.Markup
import MarkupOutline.Proofs.Render.Blocks
import MarkupOutline.Proofs.Render.Parts
import MarkupOutline.Proofs.Render.Plain

/-!
# Attribute values with quotes

A value is written between double quotes as it stands. A list of attributes can be told from the
rendering of its element as long as no value has a double quote in it. With one, a value can pass
for the end of its attribute and another attribute behind it: any two attributes with values that
follow each other are written like a single one, whose value has all of this in it (`Layout.merge`),
unless the limit for attributes on one line tells the two lists apart.
-/

namespace MarkupOutline

open Text

namespace Layout

/-- Whether the value of an attribute is written, between quotes. -/
def writesValue (o : Options) (a : String × String) : Prop := a.2 ≠ "" ∨ o.emptyAttributes = true

/-- One attribute that is written like two with a gap between them. -/
def merge (gap : List Char) (a b : String × String) : String × String :=
  (a.1, String.ofList (a.2.toList ++ '"' :: gap ++ b.1.toList ++ '=' :: '"' :: b.2.toList))

/-- An attribute with a value is its name and the value between quotes. -/
theorem attributeText_of_writesValue {o : Options} {a : String × String} (h : writesValue o a) :
    attributeText o a.1.toList a.2.toList = a.1.toList ++ '=' :: '"' :: a.2.toList ++ ['"'] := by
  have hwritten : (!a.2.toList.isEmpty || o.emptyAttributes) = true := by
    rcases h with hne | hempty
    · simp [hne]
    · rw [hempty, Bool.or_true]
  rw [attributeText, if_pos hwritten]

/-- The merged attribute is written like the two attributes. -/
theorem attributeText_merge {o : Options} {a b : String × String} (ha : writesValue o a)
    (hb : writesValue o b) (gap : List Char) :
    attributeText o (merge gap a b).1.toList (merge gap a b).2.toList =
      attributeText o a.1.toList a.2.toList ++ gap ++ attributeText o b.1.toList b.2.toList := by
  have hmerge : writesValue o (merge gap a b) := .inl (by simp [merge])
  rw [attributeText_of_writesValue hmerge, attributeText_of_writesValue ha,
    attributeText_of_writesValue hb, merge, String.toList_ofList]
  simp only [List.append_assoc, List.cons_append, List.nil_append]

/-- What sets the attributes of a list with a given number of them apart. -/
def gapOf (o : Options) (indent : Int) (count : Nat) : List Char :=
  gap indent (o.attributesPerLine < count)

/-- A list with two attributes and one with the merged attribute in their place are written alike,
unless the shorter one has just as many attributes as go on one line. -/
theorem attributeList_merge {o : Options} (indent : Int) (closed : Bool)
    {before after : List (String × String)} {a b : String × String} (ha : writesValue o a)
    (hb : writesValue o b) (hlimit : o.attributesPerLine ≠ before.length + after.length + 1) :
    attributeList o indent closed (attributeTexts o (before ++ a :: b :: after)) =
      attributeList o indent closed (attributeTexts o
        (before ++ merge (gapOf o indent (before.length + after.length + 1)) a b :: after)) := by
  have hone (c : String × String) :
      (before ++ c :: after).length = before.length + after.length + 1 := by
    rw [List.length_append, List.length_cons, Nat.add_assoc]
  have htwo : (before ++ a :: b :: after).length = before.length + after.length + 2 := by
    rw [List.length_append, List.length_cons, List.length_cons]
    omega
  -- Only a limit that is the length of the shorter list wraps one of the lists and not the other.
  have hwrapped : decide (o.attributesPerLine < before.length + after.length + 2) =
      decide (o.attributesPerLine < before.length + after.length + 1) := by
    rw [decide_eq_decide]
    omega
  have htext := attributeText_merge ha hb (gapOf o indent (before.length + after.length + 1))
  rw [attributeList_eq, attributeList_eq, hone, htwo, hwrapped, ← gapOf]
  simp only [attributeTexts, List.map_append, List.map_cons, List.flatMap_append,
    List.flatMap_cons, htext, List.append_assoc]

end Layout

/-! ## Elements without children -/

/-- An element is written with its attributes between two texts that do not depend on them. -/
theorem Node.exists_outline_attributes (o : Options) (p : Place String) (tag : String)
    (children : List Node) : ∃ closed back, ∀ attributes,
      (Node.element tag attributes children).outline o p =
        Layout.openTag p.indent p.inPre tag.toList ++
          (Layout.attributeList o p.indent closed (Layout.attributeTexts o attributes) ++
            back) := by
  let closed := Layout.closesItself o (.ofName tag) (!children.isEmpty)
  let ending := (Layout.endTag o (.ofName tag) (o.preserves tag) (!children.isEmpty)
    (p.within tag).inPre).write p.indent tag.toList
  refine ⟨closed, if closed then [] else outlines o (p.within tag) children ++ ending,
    fun attributes => ?_⟩
  rw [Node.outline, List.append_assoc]
  rfl

/-- Elements without children are rendered alike exactly if their outlines are the same. -/
theorem Draft.render_childless_eq_iff (o : Options) (tag : String)
    (as bs : List (String × String)) :
    (Draft.ofNode (.element tag as [])).render o = (Draft.ofNode (.element tag bs [])).render o ↔
      (Node.element tag as []).outline o Place.topLevel =
        (Node.element tag bs []).outline o Place.topLevel := by
  have hblock (as : List (String × String)) :
      IsBlock 0 ((Node.element tag as []).outline o Place.topLevel) :=
    Node.isBlock_outline_element o Place.topLevel rfl tag as [] (by
      simp [Node.voidsChildless, voidsChildless])
  have hrender (as : List (String × String)) : (Fragment.render o ⟨[.element tag as []]⟩).toList =
      ((Node.element tag as []).outline o Place.topLevel).tail := by
    rw [Fragment.render, String.toList_ofList, MarkupOutline.outlines, MarkupOutline.outlines,
      List.append_nil, (hblock as).trim_eq_tail]
  rw [Draft.render_ofNode, Draft.render_ofNode, Except.ok.injEq, ← String.toList_inj, hrender,
    hrender]
  refine ⟨(hblock as).eq_of_tail_eq (hblock bs), fun heq => ?_⟩
  rw [heq]

/-- Elements without children whose attributes have ordinary names and values without double quotes
are rendered alike only if they have the same attributes. A value with a double quote can pass for
more attributes: in any list, two attributes with values that follow each other can be merged into
one without a change of the rendering, unless that leaves just as many attributes as go on one
line. -/
theorem render_attributes_inj (o : Options) (tag : String) :
    (∀ as bs : List (String × String), as.all Layout.isPlainAttribute = true →
      bs.all Layout.isPlainAttribute = true →
      ((Draft.ofNode (.element tag as [])).render o = (Draft.ofNode (.element tag bs [])).render o ↔
        as = bs)) ∧
    ∀ (before after : List (String × String)) (a b : String × String),
      Layout.writesValue o a → Layout.writesValue o b →
      o.attributesPerLine ≠ before.length + after.length + 1 →
      let merged := Layout.merge (Layout.gapOf o 0 (before.length + after.length + 1)) a b
      (Draft.ofNode (.element tag (before ++ a :: b :: after) [])).render o =
        (Draft.ofNode (.element tag (before ++ merged :: after) [])).render o := by
  obtain ⟨closed, back, houtline⟩ := Node.exists_outline_attributes o Place.topLevel tag []
  refine ⟨fun as bs has hbs => ?_, fun before after a b ha hb hlimit => ?_⟩
  · rw [Draft.render_childless_eq_iff, houtline, houtline]
    refine ⟨fun heq => ?_, fun heq => by rw [heq]⟩
    exact (Layout.attributeList_append_inj o has hbs (List.append_cancel_left heq)).1
  · have hlist : Layout.attributeList o 0 closed
        (Layout.attributeTexts o (before ++ a :: b :: after)) = _ :=
      Layout.attributeList_merge 0 closed ha hb hlimit
    rw [Draft.render_childless_eq_iff, houtline, houtline]
    have htop : Place.topLevel.indent = 0 := rfl
    rw [htop, hlist]

/-- Two lists of plain attributes of a division, one of them with a value of two lines; and four
attributes, of which the two in the middle are merged. -/
theorem render_attributes_inj_division :
    let as := [("id", "x\n  class="), ("class", "")]
    let bs := [("id", "x"), ("class", "")]
    let others := [("lang", "en")]
    let merged : String × String := ("id", "x\"\n  class=\"y")
    as.all Layout.isPlainAttribute = true ∧ bs.all Layout.isPlainAttribute = true ∧
      ((Draft.ofNode (.element "div" as [])).render .default =
          (Draft.ofNode (.element "div" bs [])).render .default ↔ as = bs) ∧
      Layout.writesValue .default ("id", "x") ∧ Layout.writesValue .default ("class", "y") ∧
      Options.default.attributesPerLine ≠ others.length + others.length + 1 ∧
      (Draft.ofNode
          (.element "div" (others ++ ("id", "x") :: ("class", "y") :: others) [])).render .default =
        (Draft.ofNode (.element "div" (others ++ merged :: others) [])).render .default := by
  intro as bs others merged
  have has : as.all Layout.isPlainAttribute = true := by decide
  have hbs : bs.all Layout.isPlainAttribute = true := by decide
  have hid : Layout.writesValue .default ("id", "x") := .inr rfl
  have hclass : Layout.writesValue .default ("class", "y") := .inr rfl
  have hlimit : Options.default.attributesPerLine ≠ others.length + others.length + 1 := by decide
  obtain ⟨hinj, hmerge⟩ := render_attributes_inj .default "div"
  have hmerged : Layout.merge (Layout.gapOf .default 0 (others.length + others.length + 1))
      ("id", "x") ("class", "y") = merged := by decide
  have hfour := hmerge others others ("id", "x") ("class", "y") hid hclass hlimit
  rw [hmerged] at hfour
  exact ⟨has, hbs, hinj as bs has hbs, hid, hclass, hlimit, hfour⟩

/-- Markup with one attribute, whose value has double quotes in it, is formatted like markup with
two attributes where both fit on one line. Under the default options two attributes pass for
three. -/
theorem render_attributes_quote :
    let o : Options := { attributesPerLine := 2 }
    let division (attributes : List (String × String)) : Fragment :=
      ⟨[.element "div" attributes []]⟩
    Fragment.ofMarkup "<div a='1\" b=\"2'></div>" = .ok (division [("a", "1\" b=\"2")]) ∧
      Fragment.ofMarkup "<div a=\"1\" b=\"2\"></div>" = .ok (division [("a", "1"), ("b", "2")]) ∧
      Fragment.render o (division [("a", "1\" b=\"2")]) = "<div a=\"1\" b=\"2\"></div>" ∧
      Fragment.render o (division [("a", "1"), ("b", "2")]) = "<div a=\"1\" b=\"2\"></div>" ∧
      Fragment.render .default (division [("a", "1\"\n  b=\"2"), ("c", "3")]) =
        Fragment.render .default (division [("a", "1"), ("b", "2"), ("c", "3")]) := by
  decide +kernel

end MarkupOutline
