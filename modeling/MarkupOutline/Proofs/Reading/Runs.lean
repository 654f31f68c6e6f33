import MarkupOutline.Proofs.Reading.Content
import MarkupOutline.Proofs.Reading.EndTags
import MarkupOutline.Proofs.Reading.Settled
import MarkupOutline.Proofs.Reading.StartTags
import MarkupOutline.Proofs.Reading.Taking
import MarkupOutline.Proofs.Reading.Tokens

/-!
# Reading in steps

Markup is read token by token. `Construction.Reads s c s' c'` says that reading `s` in the state `c`
comes to reading `s'` in the state `c'`, and there is a lemma for each kind of token that an outline
consists of. The states are described by what the innermost element contains (`Holds`), once text
that is still waiting is in its place, and a text can be read where that does not end in text
(`Awaits`).
-/

namespace MarkupOutline.Html

open Text

/-- An element under construction is `f`, and contains some nodes so far. -/
structure Frame.Holds (k f : Frame) (ns : List Node) : Prop where
  key_eq : k.key = f.key
  attributes_eq : k.attributes = f.attributes
  content_eq : k.content = .ok ns

namespace Construction

variable {c c' : Construction} {s s' : List Char}

/-! ## Reading -/

/-- Reading a text in one state comes to reading another text in another state. -/
def Reads (s : List Char) (c : Construction) (s' : List Char) (c' : Construction) : Prop :=
  -- Every token takes a step and at least one character, so as many steps as there are characters
  -- are always enough.
  ∀ n, s.length ≤ n → ∃ n', s'.length ≤ n' ∧ readWithin n s c = readWithin n' s' c'

namespace Reads

/-- Nothing has been read. -/
theorem refl (s : List Char) (c : Construction) : Reads s c s c := fun n hn => ⟨n, hn, rfl⟩

/-- Readings follow each other. -/
theorem trans {s₁ s₂ s₃ : List Char} {c₁ c₂ c₃ : Construction} (h : Reads s₁ c₁ s₂ c₂)
    (h' : Reads s₂ c₂ s₃ c₃) : Reads s₁ c₁ s₃ c₃ := by
  intro n hn
  obtain ⟨m, hm, heq⟩ := h n hn
  obtain ⟨k, hk, heq'⟩ := h' m hm
  exact ⟨k, hk, heq.trans heq'⟩

/-- A token is read and taken up. -/
theorem token {t : Token} {rest : List Char}
    (hnext : Token.next c.model c.readsSections s = (some t, rest))
    (hshort : rest.length < s.length) : Reads s c rest (c.accept t) := by
  intro n hn
  obtain ⟨m, rfl⟩ : ∃ m, n = m + 1 := ⟨n - 1, by omega⟩
  have hs : s.isEmpty = false := by
    rw [List.isEmpty_eq_false_iff]
    rintro rfl
    exact absurd hshort (Nat.not_lt_zero _)
  refine ⟨m, by omega, ?_⟩
  rw [readWithin, hs, if_neg (by decide), hnext]
  rfl

/-- When everything has been read, nothing more happens. -/
theorem eq_of_nil (h : Reads s c [] c') {n : Nat} (hn : s.length ≤ n) : readWithin n s c = c' := by
  obtain ⟨m, -, heq⟩ := h n hn
  rw [heq]
  cases m with
  | zero => rfl
  | succ m => rw [readWithin, List.isEmpty_nil, if_pos rfl]

end Reads

/-! ## What is open -/

/-- The innermost open element is `f`, with the elements `below` around it, and contains some nodes
so far. -/
structure Contains (c : Construction) (f : Frame) (below : Stack) (ns : List Node) : Prop where
  orderly : c.IsOrderly
  top : ∃ k, c.stack = k :: below ∧ k.Holds f ns

/-- The content of the innermost open element does not end in text, either. -/
structure Awaits (c : Construction) (f : Frame) (below : Stack) (ns : List Node) : Prop where
  orderly : c.IsOrderly
  top : ∃ k, c.stack = k :: below ∧ k.Holds f ns ∧ k.EndsInMarkup

/-- The state that a token other than text finds: text directly in a table is in its place. -/
def placed (c : Construction) : Construction :=
  if c.mode = .tableText then c.placePending else { c with dropNewline := false }

/-- The innermost open element contains some nodes once text that is waiting is in its place. -/
structure Holds (c : Construction) (f : Frame) (below : Stack) (ns : List Node) : Prop where
  contains : c.placed.Contains f below ns
  model_eq : c.model = .data
  plain : c.stack.IsPlain
  /-- No line feed is left out behind text. -/
  keeps : c.placed.dropNewline = false ∧ (c.mode = .tableText → c.dropNewline = false)

variable {f g k : Frame} {below : Stack} {ns ms : List Node}

/-- The names of the open elements. -/
theorem Contains.names_eq (h : c.Contains f below ns) : c.names = f.name :: below.names := by
  obtain ⟨-, k, hstack, hk⟩ := h
  obtain ⟨-, hname⟩ := Prod.mk.inj hk.key_eq
  rw [Construction.names_eq hstack, ← hname]

/-- Where a text can follow, the innermost element contains what it contains. -/
theorem Awaits.contains (h : c.Awaits f below ns) : c.Contains f below ns := by
  obtain ⟨horderly, k, hstack, hk, -⟩ := h
  exact ⟨horderly, k, hstack, hk⟩

/-- No text waits in an orderly state. -/
theorem IsOrderly.mode_ne (h : c.IsOrderly) : c.mode ≠ .text ∧ c.mode ≠ .tableText := by
  have hmodes : ∀ g : Ground, Mode.text ∉ modesIn g ∧ Mode.tableText ∉ modesIn g := by
    intro g
    cases g <;> decide
  obtain ⟨htext, hwaits⟩ := hmodes (ground c.names)
  exact ⟨fun heq => htext (heq ▸ h.mode_mem), fun heq => hwaits (heq ▸ h.mode_mem)⟩

/-- In an orderly state nothing has to be put in its place. -/
theorem IsOrderly.placed_eq (h : c.IsOrderly) : c.placed = { c with dropNewline := false } :=
  if_neg h.mode_ne.2

/-- Where nothing waits, the innermost element holds what it contains. -/
theorem Contains.holds (h : c.Contains f below ns) : c.Holds f below ns := by
  have hplaced := h.orderly.placed_eq
  refine ⟨?_, h.orderly.model_eq, h.orderly.plain, ?_, fun hmode => ?_⟩
  · rw [hplaced]
    exact ⟨h.orderly.congr _ _ _, h.top⟩
  · rw [hplaced]
  · exact absurd hmode h.orderly.mode_ne.2

/-- Where a text can follow, anything can. -/
theorem Awaits.holds (h : c.Awaits f below ns) : c.Holds f below ns := h.contains.holds

/-! ## Changes to the innermost element -/

/-- Text is inserted where the content does not end in text. -/
theorem Awaits.insertText (h : c.Awaits f below ns) (s : List Char) :
    (c.insertText s).Contains f below (ns ++ textNodes (String.ofList s)) := by
  rw [Construction.insertText]
  split
  · next hempty =>
    rw [List.isEmpty_iff.1 hempty]
    exact (List.append_nil ns).symm ▸ h.contains
  · obtain ⟨horderly, k, hstack, hk, hends⟩ := h
    dsimp only
    rw [horderly.isDisplaced_eq, if_neg (by decide), onStack, hstack, Stack.onTop]
    have hkey := Frame.key_addText (String.ofList s) k
    refine ⟨horderly.setTop hstack hkey ?_ (Nat.le_refl _), _, rfl, hkey.trans hk.key_eq, ?_, ?_⟩
    · exact (horderly.plain k (by simp [hstack])).addText _
    · rw [← hk.attributes_eq]
      unfold Frame.addText
      split <;> rfl
    · exact Frame.content_addText hends hk.content_eq _

/-- A finished child is added at the end. -/
theorem Contains.addChild (h : c.Contains f below ns) (hstack : c.stack = k :: below)
    (hk : k.Holds f ns) {child : Tailed} {node : Node} (hchild : child.toNode? = .ok (some node))
    (htail : child.tail = "") {fresh : Nat} (hfresh : c.fresh ≤ fresh) :
    Awaits { c with stack := k.addChild child :: below, fresh } f below (ns ++ [node]) := by
  have hkey := Frame.key_addChild child k
  exact ⟨h.orderly.setTop hstack hkey ((h.orderly.plain k (by simp [hstack])).addChild child)
    hfresh, _, rfl, ⟨hkey.trans hk.key_eq, hk.attributes_eq,
      Frame.content_addChild hchild htail hk.content_eq⟩, Frame.endsInMarkup_addChild htail k⟩

/-! ## Text -/

/-- Inserting text changes what is open and nothing else. -/
theorem insertText_dropNewline (s : List Char) : (c.insertText s).dropNewline = c.dropNewline := by
  unfold insertText
  split <;> rfl

/-- A text is taken up, except for a line feed that is to be left out. -/
theorem Awaits.accept_text (h : c.Awaits f below ns)
    (hs : ∀ ch ∈ s, staysIn (f.name :: below.names) ch = true) :
    (c.accept (.text s)).Holds f below
      (ns ++ textNodes (String.ofList (afterFeed c.dropNewline s))) := by
  have hnames := h.contains.names_eq
  rw [← hnames] at hs
  have hstays : ∀ ch ∈ afterFeed c.dropNewline s, staysIn c.names ch = true :=
    fun ch hch => hs ch (mem_of_mem_afterFeed hch)
  have hkeep : ∀ returnMode pending,
      Awaits { c with returnMode, pending, dropNewline := false } f below ns :=
    fun returnMode pending => ⟨h.orderly.congr returnMode pending false, h.top⟩
  by_cases hnil : afterFeed c.dropNewline s = []
  · rw [accept_text_nil hnil, hnil]
    exact (List.append_nil ns).symm ▸ (hkeep c.returnMode c.pending).holds
  cases hpart : delaysText (ground c.names) with
  | false =>
    rw [h.orderly.accept_text hpart hs]
    exact ((hkeep c.returnMode c.pending).insertText _).holds
  | true =>
    -- The text is white space, so it stays in the table when it is put in its place.
    have hspace : (afterFeed c.dropNewline s).all isTableSpace = true := by
      refine List.all_eq_true.2 (isTableSpace_of_staysIn hstays ?_)
      revert hpart
      cases ground c.names <;> decide
    rw [h.orderly.accept_text_of_part hpart hs hnil]
    have hplaced : placed { c with
        dropNewline := false
        mode := .tableText
        returnMode := c.mode
        pending := afterFeed c.dropNewline s } =
        { c with returnMode := c.mode, pending := [], dropNewline := false }.insertText
          (afterFeed c.dropNewline s) := by
      rw [placed, if_pos rfl, placePending]
      dsimp only
      rw [if_pos hspace]
    refine ⟨?_, h.orderly.model_eq, h.orderly.plain, ?_, fun _ => rfl⟩
    · rw [hplaced]
      exact (hkeep c.mode []).insertText _
    · rw [hplaced, insertText_dropNewline]

/-- Escaped text is read. -/
theorem Awaits.text (h : c.Awaits f below ns) {s : List Char}
    (hs : ∀ ch ∈ s, staysIn (f.name :: below.names) ch = true) (rest : List Char)
    (hrest : ∀ ch ∈ rest.head?, ch = '<') :
    ∃ c', Reads (escape s ++ rest) c rest c' ∧
      c'.Holds f below (ns ++ textNodes (String.ofList (afterFeed c.dropNewline s))) := by
  by_cases hnil : s = []
  · -- Without text there is no token.
    subst hnil
    refine ⟨c, Reads.refl rest c, ?_⟩
    exact (List.append_nil ns).symm ▸ h.holds
  · have hnext :
        Token.next c.model c.readsSections (escape s ++ rest) = (some (.text s), rest) := by
      rw [h.orderly.model_eq]
      exact Token.next_text _ hnil hrest
    have hescape : escape s ≠ [] := fun heq => hnil (escape_eq_nil_iff.1 heq)
    refine ⟨_, Reads.token hnext ?_, h.accept_text hs⟩
    rw [List.length_append]
    have := List.length_pos_of_ne_nil hescape
    omega

/-! ## Tokens other than text -/

/-- A token other than text finds text that has been waiting in its place. -/
theorem Holds.accept_eq (h : c.Holds f below ns) {t : Token} (ht : ∀ s, t ≠ .text s)
    (hstep : c.placed.modeStep t = .done c') : c.accept t = c' := by
  have hplain := h.contains.orderly.plain
  rw [accept_eq_take ht]
  by_cases hwaits : c.mode = .tableText
  · have hsame : { c with dropNewline := false } = c := by
      rw [← h.keeps.2 hwaits]
    rw [placed, if_pos hwaits] at hplain hstep
    rw [hsame]
    have hagain : c.modeStep t = .again c.placePending := by
      unfold modeStep
      rw [hwaits]
      dsimp only
      cases t with
      | text s => exact absurd rfl (ht s)
      | startTag tag => rfl
      | endTag name => rfl
      | comment data => rfl
      | doctype => rfl
    exact takeWithin_again h.plain hagain hplain hstep _
  · rw [placed, if_neg hwaits] at hplain hstep
    exact takeWithin_eq hplain hstep _

/-- A token other than text is read. -/
theorem Holds.reads (h : c.Holds f below ns) {t : Token} (ht : ∀ s, t ≠ .text s)
    {rest : List Char} (hnext : Token.next .data c.readsSections s = (some t, rest))
    (hshort : rest.length < s.length) (hstep : c.placed.modeStep t = .done c') :
    Reads s c rest c' := by
  rw [← h.model_eq] at hnext
  rw [← h.accept_eq ht hstep]
  exact Reads.token hnext hshort

/-- A comment is inserted in every mode. -/
theorem IsOrderly.modeStep_comment (h : c.IsOrderly) (data : String) :
    c.modeStep (.comment data) = .done (c.insertComment data) := by
  obtain ⟨htext, hwaits⟩ := h.mode_ne
  unfold modeStep
  cases hmode : c.mode with
  | text => exact absurd hmode htext
  | tableText => exact absurd hmode hwaits
  | _ => rfl

/-- A comment is read. -/
theorem Holds.comment (h : c.Holds f below ns) (indent : Int) {data : List Char}
    (hdata : isCommentData data = true) (rest : List Char) :
    ∃ c', Reads ('<' :: '!' :: '-' :: '-' :: (Layout.payload indent data ++ (arrow ++ rest))) c rest
        c' ∧
      c'.Awaits f below (ns ++ [.comment (String.ofList (Layout.payload indent data))]) ∧
      c'.dropNewline = false := by
  have hnext := Token.next_comment c.readsSections indent hdata rest
  rw [List.append_assoc] at hnext
  refine ⟨_, h.reads (fun _ => Token.noConfusion) hnext ?_
    (h.contains.orderly.modeStep_comment _), ?_⟩
  · simp only [List.length_cons, List.length_append]
    omega
  · obtain ⟨k, hstack, hk⟩ := h.contains.top
    rw [insertComment, onStack, hstack, Stack.onTop]
    exact ⟨h.contains.addChild hstack hk rfl rfl (Nat.le_refl _), h.keeps.1⟩

/-! ## Tags -/

/-- Whether a tag is read back with its name and its attributes. -/
structure IsTag (tag : String) (as : List (String × String)) : Prop where
  name : isTagName tag = true
  attributes : as.all isSteadyAttribute = true
  first : Token.firstOfEach as = as

/-- An element with such a tag is a node with the name and attributes that are read back. -/
theorem IsTag.toNode?_toTailed {tag : String} {as : List (String × String)} (h : IsTag tag as)
    (hspace : k.space = .html) (hname : k.name = tag)
    (hattributes : k.attributes = as.map rereadAttribute) (hk : k.content = .ok ms) :
    k.toTailed.toNode? = .ok (some (.element tag (as.map rereadAttribute) ms)) := by
  obtain ⟨hcheck, hsteady, -⟩ := h
  subst hname
  rw [← hattributes]
  -- The only names that would change are those with a brace, which marks a namespace.
  refine Frame.toNode?_toTailed hspace ?_ ?_ hk
  · intro hmem
    simp only [isTagName, Bool.and_eq_true, List.all_eq_true, decide_eq_true_eq] at hcheck
    exact (hcheck.1.2 _ hmem).2 rfl
  · intro a ha
    rw [hattributes] at ha
    obtain ⟨b, hb, rfl⟩ := List.mem_map.1 ha
    have hchecked := List.all_eq_true.1 hsteady b hb
    simp only [isSteadyAttribute, Bool.and_eq_true, bne_iff_ne] at hchecked
    exact hchecked.1.1.2

section Tags

variable {tag : String} {as : List (String × String)}

/-- An open tag is read. -/
theorem Holds.startTag (h : c.Holds f below ns) (htag : IsTag tag as) (o : Options) (indent : Int)
    (closed : Bool)
    (hstep : c.placed.modeStep (.startTag ⟨tag, as.map rereadAttribute, closed⟩) = .done c')
    (rest : List Char) :
    Reads
      ('<' :: (tag.toList ++
        (Layout.attributeList o indent closed (Layout.attributeTexts o as) ++ rest)))
      c rest c' := by
  have hnext := Token.next_openTag o c.readsSections indent closed (Token.isName_of_check htag.name)
    htag.attributes htag.first rest
  refine h.reads (fun _ => Token.noConfusion) hnext ?_ hstep
  simp only [List.length_cons, List.length_append]
  omega

/-- An end tag is read. -/
theorem Holds.endTag (h : c.Holds f below ns) (htag : isTagName tag = true)
    (hstep : c.placed.modeStep (.endTag tag) = .done c') (rest : List Char) :
    Reads ('<' :: '/' :: (tag.toList ++ '>' :: rest)) c rest c' := by
  have hnext := Token.next_endTag c.readsSections (Token.isName_of_check htag) rest
  refine h.reads (fun _ => Token.noConfusion) hnext ?_ hstep
  simp only [List.length_cons, List.length_append]
  omega

/-- Behind the open tag of an element that opens in place, the element is the innermost one. -/
theorem Contains.opened (h : c.Contains f below ns) (hdrop : c.dropNewline = false)
    (hstack : c.stack = k :: below) {t : Tag}
    (hopens : opensInPlace (f.name :: below.names) t.name = true) :
    (c.opened t).Awaits (c.openedFrame t) (k :: below) [] ∧
      (c.opened t).dropNewline = decide (t.name = "pre") := by
  rw [← h.names_eq] at hopens
  refine ⟨⟨h.orderly.opened hopens, _, ?_, ⟨rfl, rfl, rfl⟩, rfl⟩, ?_⟩
  · rw [h.orderly.stack_opened, hstack]
  · rw [h.orderly.dropNewline_opened hdrop]

/-- Behind its end tag, an element that opened in place is the last child of the element around
it. -/
theorem Contains.closed (h : c.Contains g (k :: below) ms) (hk : k.Holds f ns)
    (htag : IsTag g.name as) (hattributes : g.attributes = as.map rereadAttribute) :
    ∃ c', c.modeStep (.endTag g.name) = .done c' ∧
      c'.Awaits f below (ns ++ [.element g.name (as.map rereadAttribute) ms]) ∧
      c'.dropNewline = c.dropNewline := by
  obtain ⟨top, hstack, htop⟩ := h.top
  obtain ⟨-, hname⟩ := Prod.mk.inj htop.key_eq
  have hnode := htag.toNode?_toTailed (h.orderly.plain top (by simp [hstack])).space_eq hname
    (htop.attributes_eq.trans hattributes) htop.content_eq
  refine ⟨c.closed top k below, hname ▸ h.orderly.endStep hstack, ?_, rfl⟩
  exact ⟨h.orderly.closed hstack, _, rfl, ⟨hk.key_eq, hk.attributes_eq,
    Frame.content_addChild hnode rfl hk.content_eq⟩, Frame.endsInMarkup_addChild rfl k⟩

/-- Behind the open tag of an element that never has content, the element is the last child of the
element around it. -/
theorem Contains.inserted (h : c.Contains f below ns) (htag : IsTag tag as) {o : Options}
    (hstands : standsInPlace o (f.name :: below.names) tag = true) (closed : Bool) :
    ∃ c', c.modeStep (.startTag ⟨tag, as.map rereadAttribute, closed⟩) = .done c' ∧
      c'.Awaits f below (ns ++ [.element tag (as.map rereadAttribute) []]) ∧
      c'.dropNewline = c.dropNewline := by
  rw [← h.names_eq] at hstands
  obtain ⟨k, hstack, hk⟩ := h.top
  have hnode := htag.toNode?_toTailed (k := c.openedFrame ⟨tag, as.map rereadAttribute, closed⟩) rfl
    rfl rfl rfl
  refine ⟨_, h.orderly.startStep_empty (t := ⟨tag, as.map rereadAttribute, closed⟩) hstands, ?_⟩
  rw [h.orderly.insertEmpty_eq _ hstack]
  exact ⟨h.addChild hstack hk hnode rfl (Nat.le_succ _), rfl⟩

end Tags

end Construction

end MarkupOutline.Html
