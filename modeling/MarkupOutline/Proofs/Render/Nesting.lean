import MarkupOutline.Proofs.Render.Comments
import MarkupOutline.Proofs.Render.Locality
import MarkupOutline.Proofs.Render.Parts
import MarkupOutline.Proofs.Render.Plain
import MarkupOutline.Proofs.Text.Deepening

/-!
# Nesting

A tree that is put inside an element keeps its outline, one level deeper: every line but the first
gets two spaces in front unless it is empty (`Node.deepens_outline`). So wrapping nodes in an
element that is laid out indents the lines of their rendering and puts the two tags around them.

Only the line breaks that the layout makes can move. A line break of the tree itself, in a text or
in a tag, would start a line that no indentation is put in front of; trees without such breaks are
movable. Comments may have line breaks, since their lines are indented, but the first line stays
behind the opening delimiter and the last one is trimmed, so both have to be without text.
-/

namespace MarkupOutline

open Text

/-! ## Movable trees -/

/-- Whether the data of a comment can be moved: it is blank, or a single line, or it begins with a
line feed and only white space stands on its last line. -/
def isMovableComment (data : List Char) : Bool :=
  allBlank data || !data.contains '\n' ||
    (data.head? == some '\n' && (lines data).getLast?.all allBlank)

mutual

/-- Whether a node has no line breaks of its own where it stands. Text that is trimmed may have some
at its ends, and what is inside an element that closes itself does not matter. -/
def Node.isMovable (o : Options) (p : Place String) : Node → Bool
  | .text value =>
    let written := if p.inPre || o.preserves p.nearestTag then value.toList else trim value.toList
    allBlank value.toList || !written.contains '\n'
  | .comment data => isMovableComment data.toList
  | .element tag attributes children =>
    !tag.toList.contains '\n' &&
      (attributes.all fun (name, value) =>
        !name.toList.contains '\n' && !value.toList.contains '\n') &&
      (Layout.closesItself o (.ofName tag) (!children.isEmpty) ||
        areMovable o (p.within tag) children)

/-- Whether nodes side by side have no line breaks of their own where they stand. -/
def areMovable (o : Options) (p : Place String) : List Node → Bool
  | [] => true
  | node :: more => node.isMovable o p && areMovable o p more

end

/-- The place one level deeper that is otherwise the same. -/
def Place.deeper (p : Place String) : Place String := { p with indent := p.indent + 1 }

namespace Layout

variable {o : Options} {indent : Int}

/-! ## Comments -/

/-- A moved line, one level deeper. -/
theorem indentLine_movedLine (hindent : 0 ≤ indent) (line : List Char) :
    indentLine (movedLine indent line) = movedLine (indent + 1) line := by
  unfold movedLine
  split
  · rfl
  · have hne : indentation (indent + 1) ++ trimStart line ≠ [] := by simp [indentation_succ hindent]
    exact indentLine_indentation_append (by omega) hne

/-- The lines of a comment that begins and ends with a line break: the delimiters at its depth and
the moved lines between them. -/
def commentLines (indent : Int) (inner : List (List Char)) : List (List Char) :=
  (indentation indent ++ "<!--".toList) :: inner.map (movedLine indent) ++
    [indentation indent ++ "-->".toList]

/-- A comment that begins with a line feed and has only white space on its last line is written line
by line. -/
theorem comment_eq_unlines {rest last : List Char} {inner : List (List Char)}
    (hlines : lines rest = inner ++ [last]) (hlast : allBlank last = true)
    (hvisible : ¬ allBlank ('\n' :: rest) = true) (indent : Int) :
    comment indent ('\n' :: rest) = '\n' :: unlines (commentLines indent inner) := by
  have hdata : lines ('\n' :: rest) = [] :: inner ++ [last] := by
    rw [lines, if_pos rfl, hlines, List.cons_append]
  have hopener : openerLine indent [] = indentation indent ++ "<!--".toList := by
    rw [openerLine, movedLine, if_pos List.isEmpty_nil, List.isEmpty_nil, if_pos rfl,
      List.append_nil, List.append_nil]
  have hcloser : closerLine indent last = indentation indent ++ "-->".toList := by
    rw [closerLine, (trim_eq_nil_iff last).2 hlast, if_pos hlast, List.nil_append]
  rw [comment_eq hvisible hdata, hopener, hcloser, commentLines]

/-- A comment that is a single line is trimmed and set off by spaces at every depth. -/
theorem payload_of_not_mem {data : List Char} (hfeed : '\n' ∉ data)
    (hvisible : ¬ allBlank data = true) (indent : Int) :
    payload indent data = ' ' :: (trim data ++ [' ']) := by
  have htrim : '\n' ∉ trim data := fun h => hfeed (mem_of_mem_trim h)
  have hmoved : movedLines indent data = trim data := by
    rw [movedLines, lines_of_not_mem hfeed]
    rfl
  have hopening : opening (trim data) = [' '] := by
    rw [opening, if_neg]
    rw [beq_iff_eq]
    exact fun h => htrim (List.mem_of_head? h)
  have hclosing : closing indent (trim data) = [' '] := by
    rw [closing, if_neg]
    rw [hopening, endsLine, beq_iff_eq]
    intro h
    rcases List.mem_append.1 (List.mem_of_getLast? h) with h | h
    · exact absurd h (by decide)
    · exact htrim h
  rw [payload_eq indent hvisible, hmoved, hopening, hclosing]
  rfl

/-- A comment on one line, one level deeper. -/
theorem deepens_inlineComment (hindent : 0 ≤ indent) {inside : List Char} (hfeed : '\n' ∉ inside) :
    Deepens (newline indent ++ "<!--".toList ++ inside ++ "-->".toList)
      (newline (indent + 1) ++ "<!--".toList ++ inside ++ "-->".toList) := by
  have hline : '\n' ∉ "<!--".toList ++ inside ++ "-->".toList := by simp [hfeed]
  have hdeeper := Deepens.newline hindent hline (by simp)
  simpa only [List.append_assoc] using hdeeper

/-- The lines of a comment, one level deeper. -/
theorem deepens_commentLines (hindent : 0 ≤ indent) {rest last : List Char}
    {inner : List (List Char)} (hlines : lines rest = inner ++ [last]) :
    Deepens ('\n' :: unlines (commentLines indent inner))
      ('\n' :: unlines (commentLines (indent + 1) inner)) := by
  have hfeed : ∀ l ∈ commentLines indent inner, '\n' ∉ l := by
    intro l hl
    rcases List.mem_append.1 hl with hl | hl
    · rcases List.mem_cons.1 hl with rfl | hl
      · simp [not_mem_indentation]
      · have hreindent : l ∈ reindent indent (lines rest) := by
          rw [hlines, reindent_concat]
          exact List.mem_append_left _ hl
        exact not_mem_of_mem_reindent hreindent
    · rw [List.mem_singleton.1 hl]
      simp [not_mem_indentation]
  have hmoved : indentLine ∘ movedLine indent = movedLine (indent + 1) :=
    funext fun line => indentLine_movedLine hindent line
  have hdeeper := Deepens.newlines _ hfeed (by simp)
  rw [List.map_cons, List.map_map, hmoved, indentLine_indentation_append hindent (by simp),
    indentLine_indentation_append hindent (by simp)] at hdeeper
  exact hdeeper

/-- A comment one level deeper. -/
theorem deepens_comment (hindent : 0 ≤ indent) {data : List Char}
    (hdata : isMovableComment data = true) :
    Deepens (comment indent data) (comment (indent + 1) data) := by
  simp only [isMovableComment, Bool.or_eq_true, Bool.and_eq_true, Bool.not_eq_true',
    List.contains_eq_mem, decide_eq_false_iff_not, beq_iff_eq] at hdata
  by_cases hblank : allBlank data = true
  · rw [comment, comment, payload, if_pos hblank, payload, if_pos hblank]
    exact deepens_inlineComment hindent List.not_mem_nil
  by_cases hfeed : '\n' ∈ data
  · obtain ⟨hhead, hlast⟩ := hdata.resolve_left (by simp [hblank, hfeed])
    obtain ⟨rest, rfl⟩ := List.head?_eq_some_iff.1 hhead
    obtain ⟨inner, last, hlines, -⟩ := exists_lines_append rest
    have hlast : allBlank last = true := by
      rw [lines, if_pos rfl, hlines, ← List.cons_append, List.getLast?_concat] at hlast
      exact hlast
    rw [comment_eq_unlines hlines hlast hblank, comment_eq_unlines hlines hlast hblank]
    exact deepens_commentLines hindent hlines
  · have hinside : '\n' ∉ ' ' :: (trim data ++ [' ']) := by
      simpa using fun h => hfeed (mem_of_mem_trim h)
    rw [comment, comment, payload_of_not_mem hfeed hblank, payload_of_not_mem hfeed hblank]
    exact deepens_inlineComment hindent hinside

/-! ## Text -/

/-- Character data one level deeper. -/
theorem deepens_text (hindent : 0 ≤ indent) (o : Options) {verbatim : Bool} {value : List Char}
    (hvalue : allBlank value = true ∨ '\n' ∉ if verbatim then value else trim value) :
    Deepens (text o indent verbatim value) (text o (indent + 1) verbatim value) := by
  unfold text
  split
  · exact Deepens.of_not_mem List.not_mem_nil
  · next hblank =>
    have hfeed := hvalue.resolve_left hblank
    have hescape {s : List Char} (h : '\n' ∉ s) : '\n' ∉ escape s := fun hmem =>
      h (mem_of_mem_escape (by decide) hmem)
    cases verbatim with
    | true =>
      simp only [if_true] at hfeed ⊢
      split
      · exact Deepens.of_not_mem (hescape hfeed)
      · exact Deepens.of_not_mem hfeed
    | false =>
      simp only [Bool.false_eq_true, if_false] at hfeed ⊢
      have hne : trim value ≠ [] := fun h => hblank ((trim_eq_nil_iff value).1 h)
      split
      · rw [trim_escape]
        exact Deepens.newline hindent (hescape hfeed) (by simp [escape_eq_nil_iff, hne])
      · exact Deepens.newline hindent hfeed (by simp [hne])

/-! ## Tags -/

/-- The open tag of an element one level deeper. -/
theorem deepens_openTag (hindent : 0 ≤ indent) (inPre : Bool) {tag : List Char}
    (htag : '\n' ∉ tag) : Deepens (openTag indent inPre tag) (openTag (indent + 1) inPre tag) := by
  have hname : '\n' ∉ '<' :: tag := by simpa using htag
  cases inPre with
  | true => exact Deepens.of_not_mem hname
  | false => exact Deepens.newline hindent hname (by simp)

/-- The end tag of an element one level deeper. -/
theorem deepens_write (hindent : 0 ≤ indent) (e : EndTag) {tag : List Char} (htag : '\n' ∉ tag) :
    Deepens (e.write indent tag) (e.write (indent + 1) tag) := by
  have hname : '\n' ∉ '<' :: '/' :: tag ++ ['>'] := by simpa using htag
  cases e with
  | absent => exact Deepens.of_not_mem List.not_mem_nil
  | inline => exact Deepens.of_not_mem hname
  | ownLine =>
    have hline := Deepens.newline hindent hname (by simp)
    simpa only [EndTag.write, List.append_assoc] using hline

/-- Attributes one level deeper, whether they are wrapped or not. -/
theorem deepens_attributeList (hindent : 0 ≤ indent) (o : Options) (closed : Bool)
    {attributes : List (String × String)}
    (h : ∀ a ∈ attributes, '\n' ∉ a.1.toList ∧ '\n' ∉ a.2.toList) :
    Deepens (attributeList o indent closed (attributeTexts o attributes))
      (attributeList o (indent + 1) closed (attributeTexts o attributes)) := by
  have htexts : ∀ text ∈ attributeTexts o attributes, '\n' ∉ text := by
    intro text htext
    obtain ⟨⟨name, value⟩, ha, rfl⟩ := List.mem_map.1 htext
    obtain ⟨hname, hvalue⟩ := h (name, value) ha
    change '\n' ∉ attributeText o name.toList value.toList
    rw [attributeText_eq, List.mem_append, not_or]
    refine ⟨hname, ?_⟩
    unfold valuePart
    split
    · simpa using hvalue
    · exact List.not_mem_nil
  have hending (wrapped : Bool) :
      Deepens (ending indent closed wrapped) (ending (indent + 1) closed wrapped) := by
    cases wrapped with
    | true =>
      have htrimmed : '\n' ∉ trim (bracket closed) ∧ trim (bracket closed) ≠ [] := by
        cases closed <;> decide
      exact Deepens.newline hindent htrimmed.1 (List.append_ne_nil_of_right_ne_nil _ htrimmed.2)
    | false => exact Deepens.of_not_mem (s := bracket closed) (by cases closed <;> decide)
  have hgap (wrapped : Bool) {text : List Char} (htext : '\n' ∉ text) :
      Deepens (gap indent wrapped ++ text) (gap (indent + 1) wrapped ++ text) := by
    cases wrapped with
    | true => exact Deepens.newline (by omega) htext (by simp [indentation_succ hindent])
    | false => exact Deepens.of_not_mem (by simpa [gap] using htext)
  rw [attributeList_eq, attributeList_eq]
  refine Deepens.append ?_ (hending _)
  generalize attributeTexts o attributes = texts at htexts
  induction texts with
  | nil => exact Deepens.of_not_mem List.not_mem_nil
  | cons text more ih =>
    obtain ⟨htext, hmore⟩ := List.forall_mem_cons.1 htexts
    rw [List.flatMap_cons, List.flatMap_cons]
    exact (hgap _ htext).append (ih hmore)

end Layout

/-! ## Trees -/

mutual

/-- A movable node writes the same one level deeper, with its lines indented. -/
theorem Node.deepens_outline (o : Options) : ∀ (node : Node) {p : Place String}, 0 ≤ p.indent →
    node.isMovable o p = true → Deepens (node.outline o p) (node.outline o p.deeper)
  | .text value, p, hp, h => by
    rw [Node.isMovable, Bool.or_eq_true, Bool.not_eq_true', List.contains_eq_mem,
      decide_eq_false_iff_not] at h
    rw [Node.outline, Node.outline]
    exact Layout.deepens_text hp o h
  | .comment data, p, hp, h => by
    rw [Node.outline, Node.outline]
    exact Layout.deepens_comment hp h
  | .element tag attributes children, p, hp, h => by
    simp only [Node.isMovable, Bool.and_eq_true, Bool.or_eq_true, Bool.not_eq_true',
      List.all_eq_true, List.contains_eq_mem, decide_eq_false_iff_not] at h
    obtain ⟨⟨htag, hattributes⟩, hchildren⟩ := h
    have hopen := (Layout.deepens_openTag hp p.inPre htag).append
      (Layout.deepens_attributeList hp o
        (Layout.closesItself o (.ofName tag) (!children.isEmpty)) hattributes)
    rw [Node.outline, Node.outline]
    dsimp only
    refine hopen.append ?_
    split
    · exact Deepens.of_not_mem List.not_mem_nil
    · next hclosed =>
      have hp' : 0 ≤ (p.within tag).indent := by
        have : (p.within tag).indent = p.indent + 1 := rfl
        omega
      exact (deepens_outlines o children hp' (hchildren.resolve_left hclosed)).append
        (Layout.deepens_write hp _ htag)

/-- Movable nodes side by side write the same one level deeper, with their lines indented. -/
theorem deepens_outlines (o : Options) : ∀ (nodes : List Node) {p : Place String}, 0 ≤ p.indent →
    areMovable o p nodes = true → Deepens (outlines o p nodes) (outlines o p.deeper nodes)
  | [], _, _, _ => by
    rw [outlines, outlines]
    exact Deepens.of_not_mem List.not_mem_nil
  | node :: more, p, hp, h => by
    rw [areMovable, Bool.and_eq_true] at h
    rw [outlines, outlines]
    exact (Node.deepens_outline o node hp h.1).append (deepens_outlines o more hp h.2)

end

/-- Nodes side by side depend on their place as each of them does. -/
theorem outlines_congr (o : Options) {p q : Place String} (hindent : p.indent = q.indent)
    (hpre : p.preDepth = q.preDepth) (hkeep : o.preserves p.nearestTag = o.preserves q.nearestTag)
    (nodes : List Node) : outlines o p nodes = outlines o q nodes := by
  induction nodes with
  | nil => rfl
  | cons node more ih => rw [outlines, outlines, Node.outline_congr o hindent hpre hkeep, ih]

/-! ## Wrapping -/

/-- The lines of nodes that are wrapped in an element: those of their own rendering, indented,
between the tags of the element. -/
def wrappedLines (tag : String) (rendered : String) : List (List Char) :=
  ('<' :: tag.toList ++ ['>']) :: (renderedLines rendered).map indentLine ++
    ['<' :: '/' :: tag.toList ++ ['>']]

/-- Movable nodes wrapped in an element that is laid out. -/
theorem Fragment.toList_render_wrap {o : Options} (htop : o.preserves "" = false) {tag : String}
    (htag : o.LaysOut tag) {nodes : List Node} (hne : nodes ≠ [])
    (hvoid : voidsChildless nodes = true) (hmovable : areMovable o Place.topLevel nodes = true) :
    (Fragment.render o ⟨[.element tag [] nodes]⟩).toList =
      unlines (wrappedLines tag (Fragment.render o ⟨nodes⟩)) := by
  have hwrapped : voidsChildless [.element tag [] nodes] = true := by
    simp [voidsChildless, Node.voidsChildless, htag.void_eq_false, hvoid]
  have hdepth : (Place.topLevel.within tag).preDepth = Place.topLevel.deeper.preDepth :=
    htag.preDepth_within (p := Place.topLevel) rfl
  have hplace : outlines o (Place.topLevel.within tag) nodes =
      outlines o Place.topLevel.deeper nodes :=
    outlines_congr o (p := Place.topLevel.within tag) (q := Place.topLevel.deeper) rfl hdepth
      (htag.notPreserved.trans htop.symm) nodes
  have hblock := isBlock_outlines o Place.topLevel rfl htop nodes hvoid
  have hcontent : outlines o (Place.topLevel.within tag) nodes =
      ((renderedLines (Fragment.render o ⟨nodes⟩)).map indentLine).flatMap ('\n' :: ·) := by
    rw [hplace, (deepens_outlines o nodes (Int.le_refl 0) hmovable).eq,
      renderedLines_render o htop ⟨nodes⟩ hvoid]
    exact deepen_of_startsLine hblock.startsLine
  rw [Fragment.toList_render o htop _ hwrapped, outlines, outlines,
    htag.outline_element rfl [] hne, hcontent, wrappedLines, List.cons_append, unlines_cons]
  simp [Layout.openTag, Layout.attributeList, Layout.bracket, Layout.EndTag.write, newline,
    indentation, Place.topLevel, Place.top, Place.inPre]

/-- Rendering movable nodes inside an element that is laid out indents the lines of their rendering
and puts the tags of the element around them; and at any place, a movable node one level deeper
writes the same with two spaces in front of every line that it starts and that is not empty. -/
theorem render_wrap_and_deeper (o : Options) :
    (∀ (tag : String) (nodes : List Node), o.preserves "" = false → o.LaysOut tag → nodes ≠ [] →
      voidsChildless nodes = true → areMovable o Place.topLevel nodes = true →
      ∃ rendered, (Draft.ofFragment ⟨nodes⟩).render o = .ok rendered ∧
        (Draft.ofNode (.element tag [] nodes)).render o =
          .ok (String.ofList (unlines (wrappedLines tag rendered)))) ∧
    ∀ (indent : Nat) (nearestTag : String) (preDepth : Int) (node : Node),
      node.isMovable o ⟨indent, nearestTag, preDepth⟩ = true →
      node.outline o ⟨indent + 1, nearestTag, preDepth⟩ =
        deepen (node.outline o ⟨indent, nearestTag, preDepth⟩) := by
  refine ⟨fun tag nodes htop htag hne hvoid hmovable => ?_, fun indent nearestTag preDepth node h =>
    (Node.deepens_outline o node (Int.natCast_nonneg indent) h).eq⟩
  refine ⟨Fragment.render o ⟨nodes⟩, Draft.render_ofFragment o ⟨nodes⟩, ?_⟩
  rw [Draft.render_ofNode, ← Fragment.toList_render_wrap htop htag hne hvoid hmovable,
    String.ofList_toList]

/-- A text, a comment with an empty line and a link with two attributes and preformatted content,
wrapped in a division; and the link at two depths. -/
theorem render_wrap_and_deeper_division :
    let link := Node.element "a" [("href", "u"), ("id", "")]
      [.text "one ", .element "pre" [] [.text " two", .comment "three"]]
    let nodes := [.text " zero\n", .comment "\n four\n\n   five\n ", link]
    Options.default.preserves "" = false ∧ Options.default.LaysOut "div" ∧ nodes ≠ [] ∧
      voidsChildless nodes = true ∧ areMovable .default Place.topLevel nodes = true ∧
      (∃ rendered, (Draft.ofFragment ⟨nodes⟩).render .default = .ok rendered ∧
        (Draft.ofNode (.element "div" [] nodes)).render .default =
          .ok (String.ofList (unlines (wrappedLines "div" rendered)))) ∧
      link.isMovable .default ⟨(2 : Nat), "li", 0⟩ = true ∧
      link.outline .default ⟨(2 : Nat) + 1, "li", 0⟩ =
        deepen (link.outline .default ⟨(2 : Nat), "li", 0⟩) := by
  intro link nodes
  have htop : Options.default.preserves "" = false := by decide
  have htag : Options.default.LaysOut "div" := by decide
  have hne : nodes ≠ [] := List.cons_ne_nil _ _
  have hvoid : voidsChildless nodes = true := by decide
  have hmovable : areMovable .default Place.topLevel nodes = true := by decide
  have hlink : link.isMovable .default ⟨(2 : Nat), "li", 0⟩ = true := by decide
  obtain ⟨hwrap, hdeeper⟩ := render_wrap_and_deeper .default
  exact ⟨htop, htag, hne, hvoid, hmovable, hwrap "div" nodes htop htag hne hvoid hmovable, hlink,
    hdeeper 2 "li" 0 link hlink⟩

end MarkupOutline
