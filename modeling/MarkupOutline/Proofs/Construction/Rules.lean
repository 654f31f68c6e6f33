import MarkupOutline.Html.Construction.Dispatch
import MarkupOutline.Proofs.Construction.Carrying

/-!
# Attribute lists under the rules

Every rule takes up a token with the steps of construction, so what all attribute lists have in
common is kept by it if the attributes of the token have it. Two things have to be added: some rules
open elements that no tag asks for, which have no attributes, and foreign elements have their
attributes put into their proper form. With that, a property of the attributes of all start tags
that are read is one of all attributes in the tree (`parseTree_carries`).
-/

namespace MarkupOutline

namespace Html

/-- A property of attribute lists that goes over to everything made of them. -/
structure IsInherited (P : List (String × String) → Prop) : Prop where
  /-- Elements that no tag asks for have no attributes. -/
  nil : P []
  /-- Foreign elements have their attributes in proper form. -/
  foreign : ∀ (space : Space) {attributes}, P attributes → P (space.attributes attributes)

/-- The attributes of a token have a property. -/
def Token.Carries (P : List (String × String) → Prop) : Token → Prop
  | .startTag tag => P tag.attributes
  | _ => True

/-- Whatever a rule makes of a token, all attribute lists have a property. -/
def Step.Carries (P : List (String × String) → Prop) : Step → Prop
  | .done c => c.Carries P
  | .again c => c.Carries P

/-- One of two outcomes. -/
theorem Step.Carries.ite {P : List (String × String) → Prop} {p : Prop} [Decidable p] {r s : Step}
    (hr : r.Carries P) (hs : s.Carries P) : (if p then r else s).Carries P := by
  split
  · exact hr
  · exact hs

namespace Construction

variable {P : List (String × String) → Prop} {c : Construction} {t : Tag}

/-- One of two constructions. -/
theorem Carries.ite {p : Prop} [Decidable p] {d : Construction} (hc : c.Carries P)
    (hd : d.Carries P) : (if p then c else d).Carries P := by
  split
  · exact hc
  · exact hd

/-! ## Start tags in flow content -/

/-- An item of a list opened. -/
theorem Carries.openItem (h : c.Carries P) (names : List String) (ht : P t.attributes) :
    (c.openItem names t).Carries P :=
  (Carries.ite (h.closeThrough names) h).closeParagraph.openTag ht

/-- A formatting element opened. -/
theorem Carries.openFormatting (h : c.Carries P) (ht : P t.attributes) :
    (c.openFormatting t).Carries P :=
  (h.reconstruct.openTag ht).addFormatting ht

/-- A link opened. -/
theorem Carries.openLink (h : c.Carries P) (ht : P t.attributes) : (c.openLink t).Carries P := by
  unfold Construction.openLink
  refine Carries.openFormatting ?_ ht
  split
  · next id _ _ _ =>
    have hended := (h.endFormatting "a").dropFormatting id
    exact hended.onStack (hended.stack.remove id)
  · exact h

/-- A foreign element opened. -/
theorem Carries.openForeign (hP : IsInherited P) (h : c.Carries P) (space : Space)
    (ht : P t.attributes) : (c.openForeign space t).Carries P := by
  have hopened := h.openElement space (space.tagName t.name) (hP.foreign space ht)
  exact Carries.ite hopened.closeCurrent hopened

/-- A selection list opened. -/
theorem Carries.openSelect (h : c.Carries P) (ht : P t.attributes) :
    (c.openSelect t).Carries P :=
  h.reconstruct.openTag ht

/-- A start tag in flow content. -/
theorem Carries.bodyStart (hP : IsInherited P) (h : c.Carries P) (ht : P t.attributes) :
    (c.bodyStart t).Carries P := by
  have hclosed := h.closeParagraph
  have hreopened := h.reconstruct
  unfold Construction.bodyStart
  dsimp only
  -- One class of tags after the other, in the order of the rules.
  exact .ite h <| .ite (h.insertEmpty ht) <| .ite (hreopened.insertEmpty ht) <|
    .ite (hreopened.insertEmpty ht) <| .ite (hclosed.insertEmpty ht) <|
    .ite (hclosed.openTag ht) <| .ite ((Carries.ite hclosed.closeCurrent hclosed).openTag ht) <|
    .ite (hclosed.openTag ht) <| .ite (.ite h (hclosed.openTag ht)) <|
    .ite (h.openItem _ ht) <| .ite (h.openItem _ ht) <| .ite (hclosed.openTag ht) <|
    .ite ((Carries.ite (h.closeThrough _) h).reconstruct.openTag ht) <|
    .ite (h.openLink ht) <| .ite (h.openFormatting ht) <|
    .ite ((Carries.ite (hreopened.endFormatting _) hreopened).openFormatting ht) <|
    .ite (hreopened.openTag ht).addMarker <| .ite (hclosed.openTag ht) <|
    .ite (h.openText ht _) <| .ite (h.openText ht (.escapableText t.name)) <|
    .ite (h.openText ht _) <| .ite (hclosed.reconstruct.openText ht _) <| .ite (h.openText ht _) <|
    .ite (h.openSelect ht) <|
    .ite ((Carries.ite h.closeCurrent h).reconstruct.openTag ht) <|
    .ite ((Carries.ite h.closeImplied h).openTag ht) <|
    .ite (hreopened.openForeign hP .math ht) <| .ite (hreopened.openForeign hP .svg ht) <|
    hreopened.openTag ht

/-! ## Other tokens in flow content -/

/-- The end of the form that is open. -/
theorem Carries.endForm (h : c.Carries P) : c.endForm.Carries P := by
  unfold Construction.endForm
  split
  · exact h
  · next id _ =>
    have hclosed : { c with form := none }.closeImplied.Carries P := Carries.closeImplied h
    exact Carries.ite (hclosed.onStack (hclosed.stack.remove id)) h

/-- An element finished if it is open within a boundary. -/
theorem Carries.endWithin (h : c.Carries P) (boundary : Frame → Bool) (names : List String) :
    (c.endWithin boundary names).Carries P :=
  Carries.ite (h.closeThrough names) h

/-- An end tag in flow content. -/
theorem Carries.bodyEnd (hP : IsInherited P) (h : c.Carries P) (name : String) :
    (c.bodyEnd name).Carries P := by
  unfold Construction.bodyEnd
  dsimp only
  exact .ite h <| .ite (h.endWithin _ _) <| .ite h.endForm <|
    .ite ((Carries.ite h (h.openTag hP.nil)).closeThrough _) <| .ite (h.endWithin _ _) <|
    .ite (h.endWithin _ _) <| .ite (h.endWithin _ _) <| .ite (h.endFormatting name) <|
    .ite (.ite (h.closeThrough _).clearToMarker h) <|
    .ite (h.reconstruct.insertEmpty hP.nil) (h.closeNamed name)

/-- Character data in flow content. -/
theorem Carries.bodyText (h : c.Carries P) (s : List Char) : (c.bodyText s).Carries P :=
  Carries.ite h (h.reconstruct.insertText _)

/-- A token in flow content. -/
theorem Carries.bodyToken (hP : IsInherited P) (h : c.Carries P) {t : Token} (ht : t.Carries P) :
    (c.bodyToken t).Carries P := by
  cases t with
  | text s => exact h.bodyText s
  | startTag tag => exact h.bodyStart hP ht
  | endTag name => exact h.bodyEnd hP name
  | comment data => exact h.insertComment data
  | doctype => exact h

/-! ## Tables -/

/-- Everything finished inside an element. -/
theorem Carries.clearTo (h : c.Carries P) (names : List String) : (c.clearTo names).Carries P :=
  h.onStack (h.stack.popTo _)

/-- Content put in front of a table. -/
theorem Carries.displace (hP : IsInherited P) (h : c.Carries P) {t : Token} (ht : t.Carries P) :
    (c.displace t).Carries P :=
  Carries.bodyToken (c := { c with fostering := true }) hP h ht

/-- The table finished. -/
theorem Carries.endTable (h : c.Carries P) : c.endTable.Carries P := h.closeThrough _

/-- The text collected directly inside a table put in its place. -/
theorem Carries.placePending (hP : IsInherited P) (h : c.Carries P) :
    c.placePending.Carries P := by
  have hready : { c with pending := [], mode := c.returnMode }.Carries P := h
  exact Carries.ite (hready.insertText _) (hready.displace (t := .text c.pending) hP trivial)

/-- A start tag directly inside a table. -/
theorem Carries.tableStart (hP : IsInherited P) (h : c.Carries P) (ht : P t.attributes) :
    (c.tableStart t).Carries P := by
  have hcleared := h.clearTo ["table"]
  unfold Construction.tableStart
  dsimp only
  refine .ite (hcleared.addMarker.openTag ht) <| .ite (hcleared.openTag ht) <|
    .ite (hcleared.openTag hP.nil) <| .ite (hcleared.openTag ht) <|
    .ite (hcleared.openTag hP.nil) <| .ite (.ite h.endTable h) <| .ite (h.bodyStart hP ht) <|
    .ite (h.insertEmpty ht) <| .ite (.ite h ?_) ?_
  · exact Carries.closeCurrent (h.openTag ht)
  · exact h.displace (t := .startTag t) hP ht

/-- An end tag directly inside a table. -/
theorem Carries.tableEnd (hP : IsInherited P) (h : c.Carries P) (name : String) :
    (c.tableEnd name).Carries P := by
  unfold Construction.tableEnd
  split_ifs
  · exact h.endTable
  · exact h
  · exact h
  · exact h.displace (t := .endTag name) hP trivial

/-- A token directly inside a table. -/
theorem Carries.tableToken (hP : IsInherited P) (h : c.Carries P) {t : Token} (ht : t.Carries P) :
    (c.tableToken t).Carries P := by
  cases t with
  | text s =>
    rw [Construction.tableToken]
    split
    · exact h
    · exact h.displace hP ht
  | startTag tag => exact h.tableStart hP ht
  | endTag name => exact h.tableEnd hP name
  | comment data => exact h.insertComment data
  | doctype => exact h

/-- A token behind text directly inside a table. -/
theorem Carries.tableTextToken (hP : IsInherited P) (h : c.Carries P) (t : Token) :
    (c.tableTextToken t).Carries P := by
  unfold Construction.tableTextToken
  split
  · exact h
  · exact h.placePending hP

/-- The caption finished. -/
theorem Carries.endCaption (h : c.Carries P) : c.endCaption.Carries P :=
  (h.closeThrough _).clearToMarker

/-- A token inside a caption. -/
theorem Carries.captionToken (hP : IsInherited P) (h : c.Carries P) {t : Token}
    (ht : t.Carries P) : (c.captionToken t).Carries P := by
  have hflow := h.bodyToken hP ht
  unfold Construction.captionToken
  dsimp only
  split
  · split_ifs
    · exact h.endCaption
    · exact h
    · exact hflow
  · split_ifs
    · exact h.endCaption
    · exact h
    · exact h.endCaption
    · exact h
    · exact h
    · exact hflow
  · exact hflow

/-- The group of columns finished. -/
theorem Carries.leaveColumns (h : c.Carries P) : c.leaveColumns.Carries P := by
  unfold Construction.leaveColumns
  split
  · exact h.closeCurrent
  · exact h

/-- A token inside a group of columns. -/
theorem Carries.columnToken (h : c.Carries P) {t : Token} (ht : t.Carries P) :
    (c.columnToken t).Carries P := by
  have hleft := h.leaveColumns
  unfold Construction.columnToken
  split
  · split
    · exact h.insertText _
    · exact hleft
  · exact h.insertComment _
  · exact h
  · split_ifs
    · exact h
    · exact h.insertEmpty ht
    · exact hleft
  · split_ifs
    · split
      · next heq => rwa [heq] at hleft
      · next heq => rwa [heq] at hleft
    · exact h
    · exact hleft

/-- The group of rows finished. -/
theorem Carries.leaveRowGroup (h : c.Carries P) : c.leaveRowGroup.Carries P := by
  unfold Construction.leaveRowGroup
  split
  · exact (h.clearTo _).closeCurrent
  · exact h

/-- A token inside a group of rows. -/
theorem Carries.rowGroupToken (hP : IsInherited P) (h : c.Carries P) {t : Token}
    (ht : t.Carries P) : (c.rowGroupToken t).Carries P := by
  have htable := h.tableToken hP ht
  unfold Construction.rowGroupToken
  split
  · split_ifs
    · exact (h.clearTo _).openTag ht
    · exact (h.clearTo _).openTag hP.nil
    · exact h.leaveRowGroup
    · exact htable
  · split_ifs
    · exact (h.clearTo _).closeCurrent
    · exact h
    · exact h.leaveRowGroup
    · exact htable
  · exact htable

/-- The row finished. -/
theorem Carries.endRow (h : c.Carries P) : c.endRow.Carries P := (h.clearTo _).closeCurrent

/-- A token inside a row. -/
theorem Carries.rowToken (hP : IsInherited P) (h : c.Carries P) {t : Token} (ht : t.Carries P) :
    (c.rowToken t).Carries P := by
  have htable := h.tableToken hP ht
  unfold Construction.rowToken
  dsimp only
  split
  · split_ifs
    · exact Carries.addMarker ((h.clearTo _).openTag ht)
    · exact h.endRow
    · exact h
    · exact htable
  · split_ifs
    · exact h.endRow
    · exact h
    · exact h.endRow
    · exact h
    · exact h.endRow
    · exact h
    · exact htable
  · exact htable

/-- The cell finished. -/
theorem Carries.endCell (h : c.Carries P) : c.endCell.Carries P :=
  (h.closeThrough _).clearToMarker

/-- A token inside a cell. -/
theorem Carries.cellToken (hP : IsInherited P) (h : c.Carries P) {t : Token} (ht : t.Carries P) :
    (c.cellToken t).Carries P := by
  have hflow := h.bodyToken hP ht
  unfold Construction.cellToken
  split
  · split_ifs
    · exact h.endCell
    · exact h
    · exact hflow
  · split_ifs
    · exact (h.closeThrough _).clearToMarker
    · exact h
    · exact h
    · exact h.endCell
    · exact h
    · exact hflow
  · exact hflow

/-! ## Selection lists -/

/-- The selection list finished. -/
theorem Carries.endSelect (h : c.Carries P) : c.endSelect.Carries P := h.closeThrough _

/-- A start tag inside a selection list. -/
theorem Carries.selectStart (hP : IsInherited P) (h : c.Carries P) (ht : P t.attributes) :
    (c.selectStart t).Carries P := by
  have hoption : (if c.currentIs (·.isHtml "option") then c.closeCurrent else c).Carries P :=
    Carries.ite h.closeCurrent h
  unfold Construction.selectStart
  dsimp only
  split
  · exact hoption.openTag ht
  · split
    · exact (Carries.ite hoption.closeCurrent hoption).openTag ht
    · split_ifs
      · exact h.endSelect
      · exact h
      · exact h.endSelect
      · exact h
      · exact h.bodyStart hP ht
      · exact h

/-- An end tag inside a selection list. -/
theorem Carries.selectEnd (h : c.Carries P) (name : String) : (c.selectEnd name).Carries P := by
  unfold Construction.selectEnd
  refine Carries.ite (Carries.ite h.closeCurrent h) (Carries.ite ?_ (Carries.ite h.endSelect h))
  have hoption (p : Bool) : (if p then c.closeCurrent else c).Carries P :=
    Carries.ite h.closeCurrent h
  exact Carries.ite (hoption _).closeCurrent (hoption _)

/-- A token inside a selection list. -/
theorem Carries.selectToken (hP : IsInherited P) (h : c.Carries P) {t : Token}
    (ht : t.Carries P) : (c.selectToken t).Carries P := by
  cases t with
  | text s => exact h.insertText _
  | startTag tag => exact h.selectStart hP ht
  | endTag name => exact h.selectEnd name
  | comment data => exact h.insertComment data
  | doctype => exact h

/-- A token inside a selection list inside a table. -/
theorem Carries.selectInTableToken (hP : IsInherited P) (h : c.Carries P) {t : Token}
    (ht : t.Carries P) : (c.selectInTableToken t).Carries P := by
  have hselect := h.selectToken hP ht
  unfold Construction.selectInTableToken
  split
  · split_ifs
    · exact h.endSelect
    · exact hselect
  · split_ifs
    · exact h.endSelect
    · exact h
    · exact hselect
  · exact hselect

/-! ## Dispatch -/

/-- The rules of the mode. -/
theorem Carries.modeStep (hP : IsInherited P) (h : c.Carries P) {t : Token} (ht : t.Carries P) :
    (c.modeStep t).Carries P := by
  unfold Construction.modeStep
  split
  · exact h.bodyToken hP ht
  · split
    · exact h.insertText _
    · exact h.closeCurrent
    · exact h
  · exact h.tableToken hP ht
  · exact h.tableTextToken hP t
  · exact h.captionToken hP ht
  · exact h.columnToken ht
  · exact h.rowGroupToken hP ht
  · exact h.rowToken hP ht
  · exact h.cellToken hP ht
  · exact h.selectToken hP ht
  · exact h.selectInTableToken hP ht

/-- The foreign elements finished up to the next place for HTML. -/
theorem Carries.leaveForeign (h : c.Carries P) : c.leaveForeign.Carries P :=
  h.onStack (h.stack.popTo _)

/-- The rules of foreign content. -/
theorem Carries.foreignStep (hP : IsInherited P) (h : c.Carries P) {t : Token} (ht : t.Carries P) :
    (c.foreignStep t).Carries P := by
  unfold Construction.foreignStep
  split
  · exact h.insertText _
  · exact h.insertComment _
  · exact h
  · split
    · exact h.leaveForeign.modeStep hP ht
    · exact h.openForeign hP _ ht
  · split
    · exact h.leaveForeign.modeStep hP ht
    · split
      · exact h.onStack (h.stack.popThrough _)
      · exact h.modeStep hP ht

/-- A token taken up in a number of rounds. -/
theorem Carries.takeWithin (hP : IsInherited P) (h : c.Carries P) {t : Token} (ht : t.Carries P)
    (rounds : Nat) : (takeWithin rounds t c).Carries P := by
  induction rounds generalizing c with
  | zero => exact h
  | succ rounds ih =>
    have hstep : (if c.isForeign t then c.foreignStep t else c.modeStep t).Carries P := by
      split
      · exact h.foreignStep hP ht
      · exact h.modeStep hP ht
    unfold Construction.takeWithin
    split
    · next heq => rwa [heq] at hstep
    · next heq =>
      rw [heq] at hstep
      exact ih hstep

/-- The next token of the markup taken up. -/
theorem Carries.accept (hP : IsInherited P) (h : c.Carries P) {t : Token} (ht : t.Carries P) :
    (c.accept t).Carries P := by
  have htrimmed : (trimNewline c.dropNewline t).Carries P := by
    unfold Construction.trimNewline
    split
    · split <;> trivial
    · exact ht
  have hpieces : ∀ piece ∈ c.pieces (trimNewline c.dropNewline t), piece.Carries P := by
    unfold Construction.pieces
    split
    · split
      · exact List.forall_mem_cons.2 ⟨trivial, List.forall_mem_singleton.2 trivial⟩
      · exact List.forall_mem_singleton.2 htrimmed
    · exact List.forall_mem_singleton.2 htrimmed
  unfold Construction.accept
  dsimp only
  generalize c.pieces (trimNewline c.dropNewline t) = pieces at hpieces
  have hstart : { c with dropNewline := false }.Carries P := h
  generalize ({ c with dropNewline := false } : Construction) = d at hstart
  clear h ht htrimmed
  induction pieces generalizing d with
  | nil => exact hstart
  | cons piece rest ih =>
    obtain ⟨hpiece, hrest⟩ := List.forall_mem_cons.1 hpieces
    refine ih hrest _ ?_
    dsimp only
    split
    · exact hstart
    · exact hstart.takeWithin hP hpiece _

/-- Markup taken up token by token. It is enough that all tokens read have the property, under a
condition on the text that every token leaves in force. -/
theorem Carries.readWithin (hP : IsInherited P) {Q : List Char → Prop}
    (hnext : ∀ model sections s, Q s →
      (∀ t ∈ (Token.next model sections s).1, t.Carries P) ∧ Q (Token.next model sections s).2)
    (h : c.Carries P) {s : List Char} (hs : Q s) (rounds : Nat) :
    (readWithin rounds s c).Carries P := by
  induction rounds generalizing s c with
  | zero => exact h
  | succ rounds ih =>
    obtain ⟨htoken, hrest⟩ := hnext c.model c.readsSections s hs
    unfold Construction.readWithin
    dsimp only
    split
    · exact h
    · refine ih ?_ hrest
      cases heq : (Token.next c.model c.readsSections s).1 with
      | none => exact h
      | some t => exact h.accept hP (htoken t heq)

/-- The tree of everything taken up. -/
theorem Carries.finish (hP : IsInherited P) (h : c.Carries P) : c.finish.Carries P := by
  have hplaced : (if c.mode = .tableText then c.placePending else c).Carries P :=
    Carries.ite (h.placePending hP) h
  unfold Construction.finish
  dsimp only
  split
  · next f heq => exact (hplaced.stack.close _ f (List.mem_of_mem_head? heq)).toTailed
  · exact ⟨hP.nil, trivial⟩

end Construction

/-- A property of the attributes of all start tags that are read is one of all attributes in the
tree. -/
theorem parseTree_carries {P : List (String × String) → Prop} (hP : IsInherited P)
    {Q : List Char → Prop}
    (hnext : ∀ model sections s, Q s →
      (∀ t ∈ (Token.next model sections s).1, t.Carries P) ∧ Q (Token.next model sections s).2)
    {markup : String} (hmarkup : Q (normalizeNewlines markup.toList)) :
    (parseTree markup).Carries P := by
  have hstart : Construction.start.Carries P :=
    ⟨List.forall_mem_singleton.2 ⟨hP.nil, nofun⟩, nofun⟩
  exact (hstart.readWithin hP hnext hmarkup _).finish hP

end Html

end MarkupOutline
