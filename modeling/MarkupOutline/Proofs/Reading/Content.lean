import MarkupOutline.Proofs.Reading.Placed
import MarkupOutline.Tailed.Conversion

/-!
# The content of an element under construction

What an element contains so far, as nodes (`Frame.content`). Another child adds its node at the end;
more text adds a text node, as long as the content does not end in text already
(`Frame.EndsInMarkup`).
-/

namespace MarkupOutline.Html

namespace Frame

variable {f g : Frame} {ns : List Node}

/-- The nodes that an element contains so far. -/
def content (f : Frame) : Except ConversionFault (List Node) := f.toTailed.content

/-- What an element contains so far does not end in text. -/
def EndsInMarkup (f : Frame) : Prop :=
  match f.children with
  | [] => f.text = ""
  | last :: _ => last.tail = ""

/-- The content consists of the text and the children. -/
theorem content_eq (f : Frame) :
    f.content = (Tailed.toNodes f.children.reverse).map (textNodes f.text ++ ·) := rfl

/-- Trees side by side are turned into nodes one after the other. -/
theorem toNodes_append_iff (before behind : List Tailed) :
    Tailed.toNodes (before ++ behind) = .ok ns ↔
      ∃ ms ks, Tailed.toNodes before = .ok ms ∧ Tailed.toNodes behind = .ok ks ∧ ns = ms ++ ks := by
  induction before generalizing ns with
  | nil =>
    rw [List.nil_append, Tailed.toNodes]
    constructor
    · exact fun h => ⟨[], ns, rfl, h, rfl⟩
    · rintro ⟨ms, ks, hms, hks, rfl⟩
      cases hms
      exact hks
  | cons tree more ih =>
    rw [List.cons_append, Tailed.toNodes, Tailed.toNodes]
    cases tree.toNode? with
    | error fault => simp [bind, Except.bind]
    | ok node =>
      constructor
      · intro h
        cases hrest : Tailed.toNodes (more ++ behind) with
        | error fault =>
          rw [hrest] at h
          cases h
        | ok rest =>
          obtain ⟨ms, ks, hms, hks, rfl⟩ := ih.1 hrest
          rw [hrest] at h
          cases h
          refine ⟨node.toList ++ textNodes tree.tail ++ ms, ks, ?_, hks,
            (List.append_assoc ..).symm⟩
          rw [hms]
          rfl
      · rintro ⟨ms, ks, hms, hks, rfl⟩
        cases hrest : Tailed.toNodes more with
        | error fault =>
          rw [hrest] at hms
          cases hms
        | ok rest =>
          rw [hrest] at hms
          cases hms
          rw [ih.2 ⟨rest, ks, hrest, hks, rfl⟩]
          exact congrArg Except.ok (List.append_assoc ..).symm

/-- The nodes of one tree are its own node and the text behind it. -/
theorem toNodes_singleton (tree : Tailed) :
    Tailed.toNodes [tree] = tree.toNode?.map fun node => node.toList ++ textNodes tree.tail := by
  rw [Tailed.toNodes]
  cases tree.toNode? with
  | error fault => rfl
  | ok node => exact congrArg Except.ok (List.append_nil _)

/-- Content is that of the text and of the children. -/
theorem content_eq_ok_iff (f : Frame) :
    f.content = .ok ns ↔
      ∃ ms, Tailed.toNodes f.children.reverse = .ok ms ∧ ns = textNodes f.text ++ ms := by
  rw [content_eq]
  cases Tailed.toNodes f.children.reverse with
  | error fault => simp [Except.map]
  | ok ms => simp [Except.map, eq_comm]

/-- More text is another text node if the content does not end in text. -/
theorem content_addText (h : f.EndsInMarkup) (hf : f.content = .ok ns) (s : String) :
    (f.addText s).content = .ok (ns ++ textNodes s) := by
  obtain ⟨ms, hms, rfl⟩ := (content_eq_ok_iff f).1 hf
  rw [content_eq_ok_iff]
  unfold EndsInMarkup at h
  unfold addText
  -- The text is put behind the last child, or in front of all children if there is none.
  cases hchildren : f.children with
  | nil =>
    rw [hchildren] at h hms
    cases hms
    refine ⟨[], rfl, ?_⟩
    rw [h, String.empty_append]
    simp [textNodes]
  | cons last more =>
    rw [hchildren] at h
    rw [hchildren, List.reverse_cons] at hms
    obtain ⟨before, own, hbefore, hown, rfl⟩ := (toNodes_append_iff _ _).1 hms
    rw [toNodes_singleton, h] at hown
    cases hnode : last.toNode? with
    | error fault =>
      rw [hnode] at hown
      cases hown
    | ok node =>
      rw [hnode] at hown
      cases hown
      have hnode' : (last.addTail s).toNode? = .ok node :=
        (Tailed.toNode?_addTail s last).trans hnode
      have htail : (last.addTail s).tail = s :=
        (Tailed.tail_addTail s last).trans ((congrArg (· ++ s) h).trans String.empty_append)
      refine ⟨before ++ (node.toList ++ textNodes s), ?_, ?_⟩
      · rw [List.reverse_cons, toNodes_append_iff]
        refine ⟨before, node.toList ++ textNodes s, hbefore, ?_, rfl⟩
        rw [toNodes_singleton, hnode', htail]
        rfl
      · simp [textNodes]

/-- Another child is another node. -/
theorem content_addChild {child : Tailed} {node : Node} (hchild : child.toNode? = .ok (some node))
    (htail : child.tail = "") (hf : f.content = .ok ns) :
    (f.addChild child).content = .ok (ns ++ [node]) := by
  obtain ⟨ms, hms, rfl⟩ := (content_eq_ok_iff f).1 hf
  rw [content_eq_ok_iff]
  refine ⟨ms ++ [node], ?_, List.append_assoc ..⟩
  rw [addChild, List.reverse_cons, toNodes_append_iff]
  refine ⟨ms, [node], hms, ?_, rfl⟩
  rw [toNodes_singleton, hchild, htail]
  rfl

/-- Content with another child ends in markup. -/
theorem endsInMarkup_addChild {child : Tailed} (htail : child.tail = "") (f : Frame) :
    (f.addChild child).EndsInMarkup := htail

/-! ## Finished elements -/

/-- A name without a closing brace is local. -/
theorem localName_eq_self {name : String} (h : '\x7d' ∉ name.toList) : localName name = name := by
  have hnone : splitAtBrace name.toList = none := by
    have hbehind : name.toList.dropWhile (fun c => decide (c ≠ '\x7d')) = [] := by
      rw [List.dropWhile_eq_nil_iff]
      intro c hc
      rw [decide_eq_true_eq]
      rintro rfl
      exact h hc
    rw [splitAtBrace, List.span_eq_takeWhile_dropWhile, hbehind]
  rw [localName, hnone]

/-- An attribute name without an opening brace in front is kept. -/
theorem attributeName_eq_ok {name : String} (h : name.toList.head? ≠ some '\x7b') :
    attributeName name = .ok name := by
  unfold attributeName
  split
  · next rest heq =>
    rw [heq] at h
    exact absurd rfl h
  · rfl

/-- A finished element without namespaces is a node with the same name and attributes. -/
theorem toNode?_toTailed (hspace : f.space = .html) (hname : '\x7d' ∉ f.name.toList)
    (hattributes : ∀ a ∈ f.attributes, a.1.toList.head? ≠ some '\x7b') (hf : f.content = .ok ns) :
    f.toTailed.toNode? = .ok (some (.element f.name f.attributes ns)) := by
  have hmap : ∀ as : List (String × String), (∀ a ∈ as, a.1.toList.head? ≠ some '\x7b') →
      as.mapM (fun a => (attributeName a.1).map (·, a.2)) = .ok as := by
    intro as has
    induction as with
    | nil => rfl
    | cons a more ih =>
      rw [List.mapM_cons, attributeName_eq_ok (has a (by simp)),
        ih fun b hb => has b (by simp [hb])]
      rfl
  obtain ⟨ms, hms, rfl⟩ := (content_eq_ok_iff f).1 hf
  have hlocal : localName (f.space.qualify f.name) = f.name := by
    rw [hspace]
    exact localName_eq_self hname
  rw [toTailed, Tailed.toNode?, hlocal]
  refine (congrArg (· >>= _) (hmap _ hattributes)).trans ?_
  rw [hms]
  rfl

end Frame

end MarkupOutline.Html
