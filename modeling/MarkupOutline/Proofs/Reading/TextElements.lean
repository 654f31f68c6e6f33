import MarkupOutline.Proofs.Reading.Runs
import MarkupOutline.Proofs.Reading.TextTokens

/-!
# Elements of text without markup

Behind the start tag of an element such as `title` or `script`, construction is in a mode of its own
(`Construction.openedText`): one text goes into the element, and the next end tag finishes it,
whatever its name. So the element is the last child of the element around it as soon as it has been
read (`Construction.Contains.reads_text`), and the state is orderly again.
-/

namespace MarkupOutline.Html.Construction

open Text

variable {c : Construction} {t : Tag} {f k : Frame} {below : Stack} {ns : List Node}

/-- The state behind the start tag of an element without markup. -/
def openedText (t : Tag) (c : Construction) : Construction :=
  { c with
    stack := c.openedFrame t :: c.stack
    fresh := c.fresh + 1
    model := textModel t.name
    returnMode := c.mode
    mode := .text
    dropNewline := t.name = "textarea" }

/-- A script is the only element without markup that is none of the others. -/
theorem eq_script_of_mem_textTags {name : String} (h : name ∈ textTags) (htitle : name ≠ "title")
    (harea : name ≠ "textarea") (hraw : ¬ rawTextTags.contains name = true)
    (hxmp : name ≠ "xmp") : name = "script" := by
  have hcases : ∀ n ∈ textTags, n = "title" ∨ n = "textarea" ∨ rawTextTags.contains n = true ∨
      n = "xmp" ∨ n = "script" := by decide
  exact ((((hcases name h).resolve_left htitle).resolve_left harea).resolve_left hraw).resolve_left
    hxmp

/-- The rules for the start tags of elements without markup. -/
theorem bodyStart_of_text (htag : t.name ∈ textTags) :
    c.bodyStart t =
      if t.name = "title" then c.openText t (.escapableText t.name)
      else if t.name = "textarea" then
        { c.openText t (.escapableText t.name) with dropNewline := true }
      else if rawTextTags.contains t.name then c.openText t (.rawText t.name)
      else if t.name = "xmp" then c.closeParagraph.reconstruct.openText t (.rawText t.name)
      else c.openText t .script := by
  have hlists := contains_eq_false_of_mem htag
  have hnames : ∀ other : String, other ∉ textTags → (t.name = other) = False :=
    fun _ hother => eq_false (ne_of_mem_of_not_mem htag hother)
  -- No other rule is about an element without markup, so those for such elements are left.
  unfold bodyStart
  dsimp only
  simp only [hlists ignoredTags (by decide), hlists besideText (by decide),
    hlists withinText (by decide), hlists blockTags (by decide), hlists headingTags (by decide),
    hlists descriptionTags (by decide), hlists formattingTags (by decide),
    hlists sealedTags (by decide), hnames "image" (by decide), hnames "hr" (by decide),
    hnames "pre" (by decide), hnames "listing" (by decide), hnames "form" (by decide),
    hnames "li" (by decide), hnames "plaintext" (by decide), hnames "button" (by decide),
    hnames "a" (by decide), hnames "nobr" (by decide), hnames "table" (by decide),
    Bool.false_eq_true, if_false, Bool.or_false, decide_false]
  by_cases htitle : t.name = "title"
  · rw [if_pos htitle, if_pos htitle]
  rw [if_neg htitle, if_neg htitle]
  by_cases harea : t.name = "textarea"
  · rw [if_pos harea, if_pos harea]
  rw [if_neg harea, if_neg harea]
  by_cases hraw : rawTextTags.contains t.name = true
  · rw [if_pos hraw, if_pos hraw]
  rw [if_neg hraw, if_neg hraw]
  by_cases hxmp : t.name = "xmp"
  · rw [if_pos hxmp, if_pos hxmp]
  rw [if_neg hxmp, if_neg hxmp, if_pos (eq_script_of_mem_textTags htag htitle harea hraw hxmp)]

namespace IsOrderly

/-- An element without markup is opened, and no line feed is left out. -/
theorem openText_eq (h : c.IsOrderly) (hdrop : c.dropNewline = false)
    (harea : t.name ≠ "textarea") : c.openText t (textModel t.name) = c.openedText t := by
  rw [openText, h.openTag_eq, openedText, decide_eq_false harea, ← hdrop]

/-- In flow content the start tag of an element without markup opens it. -/
theorem bodyStart_text (h : c.IsOrderly) (hdrop : c.dropNewline = false) (htag : t.name ∈ textTags)
    (hxmp : t.name = "xmp" → endsParagraph c.names = false) : c.bodyStart t = c.openedText t := by
  rw [bodyStart_of_text htag]
  by_cases htitle : t.name = "title"
  · rw [if_pos htitle, ← h.openText_eq hdrop (by rw [htitle]; decide), htitle]
    rfl
  rw [if_neg htitle]
  by_cases harea : t.name = "textarea"
  · rw [if_pos harea, openText, h.openTag_eq, openedText, decide_eq_true harea, harea]
    rfl
  rw [if_neg harea, ← h.openText_eq hdrop harea]
  by_cases hraw : rawTextTags.contains t.name = true
  · have hmodel : ∀ n ∈ rawTextTags, textModel n = .rawText n := by decide
    rw [if_pos hraw, hmodel t.name (List.contains_iff_mem.1 hraw)]
  rw [if_neg hraw]
  by_cases hname : t.name = "xmp"
  · rw [if_pos hname, h.closeParagraph_eq (hxmp hname), h.reconstruct_eq, hname]
    rfl
  rw [if_neg hname, eq_script_of_mem_textTags htag htitle harea hraw hname]
  rfl

/-- The start tag of an element without markup opens it and finishes nothing. -/
theorem startStep_text (h : c.IsOrderly) (hdrop : c.dropNewline = false)
    (hground : ground c.names = .flow) (htag : t.name ∈ textTags)
    (hxmp : t.name = "xmp" → endsParagraph c.names = false) :
    c.modeStep (.startTag t) = .done (c.openedText t) := by
  have hpart : t.name ∉ partTags := (by decide : ∀ n ∈ textTags, n ∉ partTags) t.name htag
  rw [h.modeStep_startTag_of_flow hground hpart, h.bodyStart_text hdrop htag hxmp]

end IsOrderly

/-! ## The text and the end tag -/

/-- The state while the content of an element without markup is read. -/
def readingText (t : Tag) (f : Frame) (drop : Bool) (c : Construction) : Construction :=
  { c.openedText t with stack := f :: c.stack, dropNewline := drop }

/-- The text goes into the element. -/
theorem accept_text_openedText (h : c.IsOrderly) (s : List Char) :
    ∃ f, (c.openedText t).accept (.text s) = c.readingText t f false ∧ f.IsPlain ∧
      f.Holds (c.openedFrame t)
        (textNodes (String.ofList (afterFeed (decide (t.name = "textarea")) s))) := by
  have hframe := c.isPlain_openedFrame t
  have hplain : (c.openedText t).stack.IsPlain := .cons hframe h.plain
  have hdrop : (c.openedText t).dropNewline = decide (t.name = "textarea") := rfl
  by_cases hnil : afterFeed (decide (t.name = "textarea")) s = []
  · -- The text was the line feed that is left out.
    refine ⟨c.openedFrame t, ?_, hframe, ?_⟩
    · rw [accept_text_nil (by rw [hdrop, hnil])]
      rfl
    · rw [hnil]
      exact ⟨rfl, rfl, rfl⟩
  · have hkey := Frame.key_addText
      (String.ofList (afterFeed (decide (t.name = "textarea")) s)) (c.openedFrame t)
    have hdisplaced : isDisplaced { c.openedText t with dropNewline := false } = false := by
      rw [isDisplaced, show (c.openedText t).fostering = false from h.fostering_eq, Bool.false_and]
    have hends : (c.openedFrame t).EndsInMarkup := rfl
    have hempty : (c.openedFrame t).content = .ok [] := rfl
    have hcontent := Frame.content_addText hends hempty
      (String.ofList (afterFeed (decide (t.name = "textarea")) s))
    have hstep : modeStep (.text (afterFeed (decide (t.name = "textarea")) s))
        { c.openedText t with dropNewline := false } =
          .done (c.readingText t ((c.openedFrame t).addText
            (String.ofList (afterFeed (decide (t.name = "textarea")) s))) false) := by
      change Step.done (insertText _ { c.openedText t with dropNewline := false }) = _
      rw [insertText, if_neg (by simpa using hnil)]
      dsimp only
      rw [hdisplaced, if_neg Bool.false_ne_true]
      rfl
    rw [accept_text_eq (by rwa [hdrop]) (fun hmode => by cases hmode), hdrop]
    exact ⟨_, takeWithin_eq (c := { c.openedText t with dropNewline := false }) hplain hstep _,
      hframe.addText _, hkey, rfl, hcontent⟩

/-- The end tag finishes the element. -/
theorem accept_endTag_readingText (h : c.IsOrderly) (hstack : c.stack = k :: below)
    (hf : f.IsPlain) (drop : Bool) (name : String) :
    (c.readingText t f drop).accept (.endTag name) =
      { c with
        stack := k.addChild f.toTailed :: below
        fresh := c.fresh + 1
        returnMode := c.mode
        dropNewline := false } := by
  have hplain : (c.readingText t f false).stack.IsPlain := .cons hf h.plain
  have hopen : (c.readingText t f false).stack = f :: k :: below := by
    rw [readingText, hstack]
  rw [accept_eq_take fun _ => Token.noConfusion]
  refine takeWithin_eq hplain ?_ _
  change Step.done
    { (c.readingText t f false).closeCurrent with mode := c.mode, model := .data } = _
  rw [closeCurrent_eq hplain hopen, ← h.model_eq]
  rfl

/-- The content and the end tag of an element without markup are read, and the element is the last
child of the element around it. -/
theorem Contains.reads_text (h : c.Contains f below ns) {as : List (String × String)}
    (htag : IsTag t.name as) (hattributes : t.attributes = as.map rereadAttribute)
    (htext : t.name ∈ textTags) {s : List Char} (hsteady : ∀ ch ∈ s, isSteady ch = true)
    (hplain : escapableTags.contains t.name = true ∨ escape s = s) (rest : List Char) :
    ∃ c', Reads (escape s ++ '<' :: '/' :: (t.name.toList ++ '>' :: rest)) (c.openedText t) rest
        c' ∧
      c'.Awaits f below (ns ++ [.element t.name (as.map rereadAttribute)
        (textNodes (String.ofList (afterFeed (decide (t.name = "textarea")) s)))]) ∧
      c'.dropNewline = false := by
  obtain ⟨k, hstack, hk⟩ := h.top
  -- The end tag is read in the state behind the text, if there is one.
  have hend : ∀ g drop ms, Frame.IsPlain g → g.Holds (c.openedFrame t) ms →
      ∃ c', Reads ('<' :: '/' :: (t.name.toList ++ '>' :: rest)) (c.readingText t g drop) rest c' ∧
        c'.Awaits f below (ns ++ [.element t.name (as.map rereadAttribute) ms]) ∧
        c'.dropNewline = false := by
    intro g drop ms hg hms
    have hnext := Token.next_textModel_endTag (c.readingText t g drop).readsSections htext rest
    have hnode := htag.toNode?_toTailed hg.space_eq (Prod.mk.inj hms.key_eq).2
      (hms.attributes_eq.trans hattributes) hms.content_eq
    refine ⟨_, Reads.token hnext ?_, ?_⟩
    · simp only [List.length_cons, List.length_append]
      omega
    · rw [accept_endTag_readingText h.orderly hstack hg]
      have hkeep : Contains { c with returnMode := c.mode, dropNewline := false } f below ns :=
        ⟨h.orderly.congr _ _ _, h.top⟩
      exact ⟨hkeep.addChild hstack hk hnode rfl (Nat.le_succ _), rfl⟩
  by_cases hnil : s = []
  · -- The end tag comes right behind the start tag.
    subst hnil
    exact hend (c.openedFrame t) (decide (t.name = "textarea")) [] (c.isPlain_openedFrame t)
      ⟨rfl, rfl, rfl⟩
  · obtain ⟨g, haccept, hg, hms⟩ := accept_text_openedText h.orderly s (t := t)
    have hnext := Token.next_textModel (c.openedText t).readsSections hnil hsteady hplain rest
    have hescape : escape s ≠ [] := fun heq => hnil (escape_eq_nil_iff.1 heq)
    obtain ⟨c', hreads, hawaits⟩ := hend g false _ hg hms
    refine ⟨c', Reads.trans (Reads.token hnext ?_) (haccept ▸ hreads), hawaits⟩
    rw [List.length_append]
    have := List.length_pos_of_ne_nil hescape
    omega

end MarkupOutline.Html.Construction
