import Mathlib.Data.List.TakeDrop
import MarkupOutline.Html.Construction.Adoption

/-!
# What all attribute lists have in common

Attributes enter a tree with the start tags and stay as they are: elements are moved about, opened
again and finished, but their attributes are copied whole. A property that every list of attributes
in the construction has is therefore kept by all of its steps, provided that the lists of new
elements have it, and so is that nothing but elements and comments is put into a tree. This module
says so for the steps on the open elements and on the formatting in effect; the rules are made of
these.
-/

namespace MarkupOutline

variable {P : List (String × String) → Prop}

/-! ## Trees -/

namespace Tailed

mutual

/-- All attribute lists in a tree have a property, and beside elements there are only comments. -/
def Carries (P : List (String × String) → Prop) : Tailed → Prop
  | element _ attributes _ children _ => P attributes ∧ AllCarry P children
  | aside kind _ children _ => kind = .comment ∧ AllCarry P children

/-- All attribute lists in trees side by side have a property. -/
def AllCarry (P : List (String × String) → Prop) : List Tailed → Prop
  | [] => True
  | tree :: more => Carries P tree ∧ AllCarry P more

end

/-- Trees side by side have a property if each of them has it. -/
theorem allCarry_iff {trees : List Tailed} : AllCarry P trees ↔ ∀ t ∈ trees, Carries P t := by
  induction trees with
  | nil => simp [AllCarry]
  | cons tree more ih => rw [AllCarry, ih, List.forall_mem_cons]

/-- Text behind a tree makes no difference. -/
theorem Carries.addTail {t : Tailed} (h : t.Carries P) (s : String) : (t.addTail s).Carries P := by
  cases t <;> exact h

end Tailed

namespace Html

/-! ## Open elements -/

/-- The attributes of a frame and those of its finished children have a property. -/
structure Frame.Carries (P : List (String × String) → Prop) (f : Frame) : Prop where
  attributes : P f.attributes
  children : ∀ t ∈ f.children, t.Carries P

namespace Frame

variable {f : Frame}

/-- Text makes no difference. -/
theorem Carries.addText (h : f.Carries P) (s : String) : (f.addText s).Carries P := by
  unfold Frame.addText
  split
  · exact ⟨h.attributes, h.children⟩
  · next last more heq =>
    have hchildren := h.children
    rw [heq, List.forall_mem_cons] at hchildren
    exact ⟨h.attributes, List.forall_mem_cons.2 ⟨hchildren.1.addTail s, hchildren.2⟩⟩

/-- A finished child is handed over. -/
theorem Carries.addChild (h : f.Carries P) {child : Tailed} (hchild : child.Carries P) :
    (f.addChild child).Carries P :=
  ⟨h.attributes, List.forall_mem_cons.2 ⟨hchild, h.children⟩⟩

/-- The finished tree of a frame. -/
theorem Carries.toTailed (h : f.Carries P) : f.toTailed.Carries P :=
  ⟨h.attributes, Tailed.allCarry_iff.2 fun t ht => h.children t (List.mem_reverse.1 ht)⟩

end Frame

/-- All attribute lists in the open elements have a property. -/
def Stack.Carries (P : List (String × String) → Prop) (s : Stack) : Prop := ∀ f ∈ s, f.Carries P

namespace Stack

variable {s : Stack} {change : Frame → Frame}

/-- A change to the innermost frame. -/
theorem Carries.onTop (h : s.Carries P)
    (hchange : ∀ f : Frame, f.Carries P → (change f).Carries P) : (onTop change s).Carries P := by
  cases s with
  | nil => exact h
  | cons f below =>
    obtain ⟨hf, hbelow⟩ := List.forall_mem_cons.1 h
    exact List.forall_mem_cons.2 ⟨hchange f hf, hbelow⟩

/-- A change to the frame around the nearest table. -/
theorem Carries.aroundTable (h : s.Carries P)
    (hchange : ∀ f : Frame, f.Carries P → (change f).Carries P) :
    (aroundTable change s).Carries P := by
  fun_induction Stack.aroundTable change s with
  | case1 => exact h
  | case2 f => exact List.forall_mem_cons.2 ⟨hchange f (h f (by simp)), nofun⟩
  | case3 f g below =>
    obtain ⟨hf, hrest⟩ := List.forall_mem_cons.1 h
    obtain ⟨hg, hbelow⟩ := List.forall_mem_cons.1 hrest
    exact List.forall_mem_cons.2 ⟨hf, List.forall_mem_cons.2 ⟨hchange g hg, hbelow⟩⟩
  | case4 f g below _ ih =>
    obtain ⟨hf, hrest⟩ := List.forall_mem_cons.1 h
    exact List.forall_mem_cons.2 ⟨hf, ih hrest⟩

/-- The innermost element finished. -/
theorem Carries.closeTop (h : s.Carries P) : s.closeTop.Carries P := by
  unfold Stack.closeTop
  split
  · next f g below =>
    obtain ⟨hf, hrest⟩ := List.forall_mem_cons.1 h
    have hgive (k : Frame) (hk : k.Carries P) := hk.addChild hf.toTailed
    dsimp only
    split
    · exact Carries.aroundTable hrest hgive
    · exact Carries.onTop hrest hgive
  · exact h

/-- A number of innermost elements finished. -/
theorem Carries.close (h : s.Carries P) (n : Nat) : (s.close n).Carries P := by
  induction n generalizing s with
  | zero => exact h
  | succ n ih => exact ih h.closeTop

/-- The innermost elements finished that no longer count as open. -/
theorem Carries.settle (h : s.Carries P) : s.settle.Carries P := h.close _

/-- Everything finished inside an element. -/
theorem Carries.popTo (h : s.Carries P) (p : Frame → Bool) : (s.popTo p).Carries P := h.close _

/-- An element finished, and everything inside of it. -/
theorem Carries.popThrough (h : s.Carries P) (p : Frame → Bool) : (s.popThrough p).Carries P :=
  (h.close _).settle

/-- All innermost elements finished that have a property. -/
theorem Carries.popWhile (h : s.Carries P) (p : Frame → Bool) : (s.popWhile p).Carries P :=
  (h.close _).settle

/-- An element that no longer counts as open. -/
theorem Carries.remove (h : s.Carries P) (id : Nat) : (s.remove id).Carries P := by
  refine Carries.settle fun f hf => ?_
  obtain ⟨g, hg, rfl⟩ := List.mem_map.1 hf
  split
  · exact ⟨(h g hg).attributes, (h g hg).children⟩
  · exact h g hg

end Stack

/-! ## Formatting in effect -/

/-- The attributes of an entry have a property. -/
def Formatting.Carries (P : List (String × String) → Prop) : Formatting → Prop
  | .marker => True
  | .element _ _ attributes => P attributes

/-- An entry that takes the place of others. -/
theorem Formatting.forall_mem_map {entries : List Formatting} (h : ∀ e ∈ entries, e.Carries P)
    (p : Formatting → Bool) {entry : Formatting} (hentry : entry.Carries P) :
    ∀ e ∈ entries.map (fun e => if p e then entry else e), e.Carries P := by
  intro e he
  obtain ⟨d, hd, rfl⟩ := List.mem_map.1 he
  split
  · exact hentry
  · exact h d hd

/-- All attribute lists in a state of construction have a property. -/
structure Kept (P : List (String × String) → Prop) (s : Stack) (formatting : List Formatting) :
    Prop where
  stack : s.Carries P
  formatting : ∀ e ∈ formatting, e.Carries P

namespace Construction

/-- All attribute lists in a construction have a property. Nothing but the open elements and the
formatting in effect holds attributes. -/
def Carries (P : List (String × String) → Prop) (c : Construction) : Prop :=
  Kept P c.stack c.formatting

variable {c : Construction} {t : Tag}

/-- A change to the open elements. -/
theorem Carries.onStack (h : c.Carries P) {change : Stack → Stack}
    (hchange : (change c.stack).Carries P) : (c.onStack change).Carries P :=
  ⟨hchange, h.formatting⟩

/-! ### Inserting -/

/-- An element opened. -/
theorem Carries.openElement (h : c.Carries P) (space : Space) (name : String)
    {attributes : List (String × String)} (hattributes : P attributes) :
    (c.openElement space name attributes).Carries P :=
  ⟨List.forall_mem_cons.2 ⟨⟨hattributes, nofun⟩, h.stack⟩, h.formatting⟩

/-- The element of a start tag opened. -/
theorem Carries.openTag (h : c.Carries P) (ht : P t.attributes) : (c.openTag t).Carries P :=
  h.openElement .html t.name ht

/-- The innermost element finished. -/
theorem Carries.closeCurrent (h : c.Carries P) : c.closeCurrent.Carries P :=
  h.onStack (h.stack.close 1).settle

/-- The element of a start tag inserted without content. -/
theorem Carries.insertEmpty (h : c.Carries P) (ht : P t.attributes) : (c.insertEmpty t).Carries P :=
  (h.openTag ht).closeCurrent

/-- Text inserted. -/
theorem Carries.insertText (h : c.Carries P) (s : List Char) : (c.insertText s).Carries P := by
  unfold Construction.insertText
  have hadd (f : Frame) (hf : f.Carries P) := hf.addText (String.ofList s)
  split
  · exact h
  · split
    · exact h.onStack (h.stack.aroundTable hadd)
    · exact h.onStack (h.stack.onTop hadd)

/-- A comment inserted. -/
theorem Carries.insertComment (h : c.Carries P) (data : String) :
    (c.insertComment data).Carries P :=
  h.onStack (h.stack.onTop fun _ hf => hf.addChild ⟨rfl, trivial⟩)

/-- An element opened whose content is text. -/
theorem Carries.openText (h : c.Carries P) (ht : P t.attributes) (model : ContentModel) :
    (c.openText t model).Carries P :=
  h.openTag ht

/-! ### The list of formatting -/

/-- The list with some entries left out. -/
theorem Carries.filterFormatting (h : c.Carries P) (p : Formatting → Bool) :
    { c with formatting := c.formatting.filter p }.Carries P :=
  ⟨h.stack, fun e he => h.formatting e (List.mem_filter.1 he).1⟩

/-- An entry taken off the list. -/
theorem Carries.dropFormatting (h : c.Carries P) (id : Nat) : (c.dropFormatting id).Carries P :=
  h.filterFormatting _

/-- The innermost element entered in the list. -/
theorem Carries.addFormatting (h : c.Carries P) (ht : P t.attributes) :
    (c.addFormatting t).Carries P := by
  unfold Construction.addFormatting
  split
  · exact h
  · dsimp only
    split
    · exact ⟨h.stack, List.forall_mem_cons.2 ⟨ht, h.formatting⟩⟩
    · exact ⟨h.stack, List.forall_mem_cons.2 ⟨ht, (h.filterFormatting _).formatting⟩⟩

/-- A marker entered in the list. -/
theorem Carries.addMarker (h : c.Carries P) : c.addMarker.Carries P :=
  ⟨h.stack, List.forall_mem_cons.2 ⟨trivial, h.formatting⟩⟩

/-- The list from behind its first marker. -/
theorem Carries.clearToMarker (h : c.Carries P) : c.clearToMarker.Carries P :=
  ⟨h.stack, fun e he =>
    h.formatting e ((List.dropWhile_suffix _).subset (List.mem_of_mem_drop he))⟩

/-- The element of an entry opened anew. -/
theorem Carries.reopen (h : c.Carries P) {e : Formatting} (he : e.Carries P) :
    (c.reopen e).Carries P := by
  cases e with
  | marker => exact h
  | element id name attributes =>
    exact ⟨(h.openElement .html name he).stack,
      Formatting.forall_mem_map h.formatting (·.hasId id) he⟩

/-- The latest entries opened again. -/
theorem Carries.reconstruct (h : c.Carries P) : c.reconstruct.Carries P := by
  have hentries : ∀ e ∈ (c.formatting.takeWhile c.isStale).reverse, e.Carries P := fun e he =>
    h.formatting e ((List.takeWhile_subset _) (List.mem_reverse.1 he))
  unfold Construction.reconstruct
  generalize (c.formatting.takeWhile c.isStale).reverse = entries at hentries
  induction entries generalizing c with
  | nil => exact h
  | cons e rest ih =>
    obtain ⟨he, hrest⟩ := List.forall_mem_cons.1 hentries
    exact ih (h.reopen he) hrest

/-! ### Finishing elements -/

/-- The elements finished whose end tags may be left out. -/
theorem Carries.closeImplied (h : c.Carries P) : c.closeImplied.Carries P :=
  h.onStack (h.stack.popWhile _)

/-- An element finished, and everything inside of it. -/
theorem Carries.closeThrough (h : c.Carries P) (names : List String) :
    (c.closeThrough names).Carries P :=
  h.onStack (h.stack.popThrough _)

/-- A paragraph finished. -/
theorem Carries.closeParagraph (h : c.Carries P) : c.closeParagraph.Carries P := by
  unfold Construction.closeParagraph
  split
  · exact h.closeThrough _
  · exact h

/-- The nearest element of a given name finished. -/
theorem Carries.closeNamed (h : c.Carries P) (name : String) : (c.closeNamed name).Carries P := by
  unfold Construction.closeNamed
  split
  · exact h.onStack (h.stack.popThrough _)
  · exact h

end Construction

/-! ## Ends of formatting elements -/

/-- All attribute lists of a regrouping have a property. -/
structure Regrouping.Carries (P : List (String × String) → Prop) (r : Regrouping) : Prop where
  formatting : ∀ e ∈ r.formatting, e.Carries P
  reopened : ∀ f ∈ r.reopened, f.Carries P

namespace Regrouping

variable {r : Regrouping}

/-- One more element. -/
theorem Carries.take (h : r.Carries P) (position : Nat) (f : Frame) :
    (r.take position f).Carries P := by
  unfold Regrouping.take
  split
  · next id name attributes hfound =>
    have hattributes : P attributes := h.formatting _ (List.mem_of_find?_eq_some hfound)
    split
    · exact ⟨fun e he => h.formatting e (List.mem_filter.1 he).1, h.reopened⟩
    · refine ⟨Formatting.forall_mem_map h.formatting (·.hasId f.id) hattributes, fun g hg => ?_⟩
      rcases List.mem_append.1 hg with hg | hg
      · exact h.reopened g hg
      · rw [List.mem_singleton.1 hg]
        exact ⟨hattributes, nofun⟩
  · exact h

/-- All the elements. -/
theorem Carries.takeAll (h : r.Carries P) (frames : List Frame) : (r.takeAll frames).Carries P := by
  unfold Regrouping.takeAll
  generalize frames.zipIdx 1 = placed
  induction placed generalizing r with
  | nil => exact h
  | cons entry rest ih => exact ih (h.take entry.2 entry.1)

/-- The formatting in effect once an entry has been put in the place of another. -/
theorem Carries.replace (h : r.Carries P) (old : Nat) {entry : Formatting}
    (hentry : entry.Carries P) : ∀ e ∈ r.replace old entry, e.Carries P := by
  unfold Regrouping.replace
  split
  · exact Formatting.forall_mem_map h.formatting (·.hasId old) hentry
  · intro e he
    obtain ⟨d, hd, he⟩ := List.mem_flatMap.1 he
    have hd := h.formatting d (List.mem_filter.1 hd).1
    split at he
    · rcases List.mem_cons.1 he with rfl | he
      · exact hentry
      · rwa [List.mem_singleton.1 he]
    · rwa [List.mem_singleton.1 he]

end Regrouping

/-- The outermost frame marked as fostered or not. -/
theorem forall_mem_markLast {frames : List Frame} (h : ∀ f ∈ frames, f.Carries P)
    (fostered : Bool) : ∀ f ∈ markLast fostered frames, f.Carries P := by
  fun_induction markLast fostered frames with
  | case1 => exact h
  | case2 f =>
    have hf := h f (by simp)
    exact List.forall_mem_cons.2 ⟨⟨hf.attributes, hf.children⟩, nofun⟩
  | case3 f g below ih =>
    obtain ⟨hf, hrest⟩ := List.forall_mem_cons.1 h
    exact List.forall_mem_cons.2 ⟨hf, ih hrest⟩

namespace Construction

variable {c : Construction}

/-- A block put in the place of the formatting element around it. -/
theorem Carries.adoptBlock (h : c.Carries P) (id : Nat) (name : String)
    {attributes : List (String × String)} (hattributes : P attributes) (blockId : Nat) :
    (c.adoptBlock id name attributes blockId).Carries P := by
  have hstack := h.stack
  rw [← List.takeWhile_append_dropWhile (p := fun f => decide (f.id ≠ blockId)) (l := c.stack)]
    at hstack
  unfold Construction.adoptBlock
  rw [List.span_eq_takeWhile_dropWhile]
  dsimp only
  split
  · exact h
  · next block fromBetween heq =>
    rw [heq] at hstack
    obtain ⟨hinside, hrest⟩ := List.forall_mem_append.1 hstack
    obtain ⟨hblock, hbetween⟩ := List.forall_mem_cons.1 hrest
    have hregrouped := Regrouping.Carries.takeAll (r := ⟨c.formatting, c.fresh, []⟩)
      ⟨h.formatting, nofun⟩ ((fromBetween.takeWhile fun f => f.id ≠ id).filter (·.isOpen))
    have houter := (Stack.Carries.close (s := fromBetween) hbetween
      ((fromBetween.takeWhile fun f => f.id ≠ id).length + 1)).settle
    refine ⟨?_, hregrouped.replace id hattributes⟩
    refine List.forall_mem_append.2 ⟨List.forall_mem_append.2 ⟨hinside, ?_⟩, houter⟩
    refine List.forall_mem_cons.2 ⟨⟨hattributes, hblock.children⟩, forall_mem_markLast ?_ _⟩
    exact List.forall_mem_cons.2 ⟨⟨hblock.attributes, nofun⟩, hregrouped.reopened⟩

/-- The end of a formatting element, as often as blocks make necessary. -/
theorem Carries.endFormattingTimes (h : c.Carries P) (times : Nat) (name : String) :
    (endFormattingTimes times name c).Carries P := by
  induction times generalizing c with
  | zero => exact h
  | succ times ih =>
    unfold Construction.endFormattingTimes
    split
    · exact h.closeNamed name
    · exact h.closeNamed name
    · next id _ attributes hfound =>
      have hattributes : P attributes := by
        have hmem := List.mem_of_find?_eq_some hfound
        exact h.formatting _ (List.takeWhile_subset _ hmem)
      split
      · exact h.dropFormatting id
      · split
        · exact h
        · dsimp only
          split
          · exact (h.onStack (h.stack.popThrough _)).dropFormatting id
          · exact ih (h.adoptBlock id name hattributes _)

/-- The end of the latest formatting element of a given name. -/
theorem Carries.endFormatting (h : c.Carries P) (name : String) :
    (c.endFormatting name).Carries P := by
  unfold Construction.endFormatting
  split
  · split
    · exact h.closeCurrent
    · exact h.endFormattingTimes 8 name
  · exact h

end Construction

end Html

end MarkupOutline
