import MarkupOutline.Proofs.Reading.Tokens

/-!
# Tokens of text without markup

In some elements everything up to the end tag is text. What is written there is read back in two
tokens: the text, in which references are replaced or not (`Token.next_textModel`), and the end tag
(`Token.next_textModel_endTag`). No text that is written there has an angle bracket in it, so none
is mistaken for the end.
-/

namespace MarkupOutline.Html

open Text

/-- How the content of an element without markup is read. -/
def textModel (tag : String) : ContentModel :=
  if Construction.escapableTags.contains tag then .escapableText tag
  else if tag = "script" then .script
  else .rawText tag

namespace Token

variable {tag : String}

/-- No end tag begins with a character other than an angle bracket. -/
theorem closing?_eq_none (element : String) {c : Char} (hc : c ≠ '<') (rest : List Char) :
    closing? element (c :: rest) = none := by
  have hafter : after? "</" (c :: rest) = none := by
    rw [after?, if_neg]
    simp [Ne.symm hc]
  rw [closing?, hafter]

/-- The end tag of an element is found. -/
theorem closing?_endTag (htag : tag.toList.map Char.toLower = tag.toList) (rest : List Char) :
    closing? tag ('<' :: '/' :: (tag.toList ++ '>' :: rest)) = some ('>' :: rest) := by
  have hafter : after? "</" ('<' :: '/' :: (tag.toList ++ '>' :: rest)) =
      some (tag.toList ++ '>' :: rest) := rfl
  have hlength : tag.length = tag.toList.length := rfl
  have hname : afterIgnoringCase? tag tag.toList = some [] := by
    rw [afterIgnoringCase?, htag, if_pos (by simp), hlength, List.drop_length]
  rw [closing?, hafter]
  dsimp only
  rw [hlength, List.take_left, hname]
  dsimp only
  rw [List.drop_left]
  dsimp only
  rw [if_neg (by decide)]

/-- A script without angle brackets goes on up to its end tag. -/
theorem scriptData_append {s : List Char} (hs : '<' ∉ s) (rest : List Char) :
    scriptData .plain (s ++ '<' :: '/' :: ("script".toList ++ '>' :: rest)) =
      (s, '<' :: '/' :: ("script".toList ++ '>' :: rest)) := by
  induction s with
  | nil =>
    rw [List.nil_append, scriptData, closing?_endTag (by decide)]
    rfl
  | cons c s ih =>
    rw [List.mem_cons, not_or] at hs
    have hc : c ≠ '<' := Ne.symm hs.1
    -- No comment begins inside of the script, in which another end tag could stand.
    have hplain : ScriptPart.plain.step
        (c :: (s ++ '<' :: '/' :: ("script".toList ++ '>' :: rest))) = .plain := by
      have hafter : ∀ more, after? "<!--" (c :: more) = none := by
        intro more
        rw [after?, if_neg]
        simp [Ne.symm hc]
      rw [ScriptPart.step, hafter]
      rfl
    rw [List.cons_append, scriptData, closing?_eq_none _ hc, hplain, ih hs.2]
    rfl

/-- A text without angle brackets goes on up to the next one. -/
theorem nextUpTo_append (element : String) (read : List Char → List Char) {c : Char}
    {more : List Char} (hmore : '<' ∉ c :: more) (rest : List Char) :
    nextUpTo element read c (more ++ '<' :: rest) =
      (some (.text ((read (c :: more)).map withoutNull)), '<' :: rest) := by
  rw [List.mem_cons, not_or] at hmore
  have hstops : Stops (fun c => decide (c ≠ '<')) ('<' :: rest) := stops_cons (by decide) rest
  have hinside : ∀ d ∈ more, decide (d ≠ '<') = true := by
    intro d hd
    rw [decide_eq_true_eq]
    rintro rfl
    exact hmore.2 hd
  rw [nextUpTo, closing?_eq_none element (Ne.symm hmore.1), List.span_eq_takeWhile_dropWhile,
    takeWhile_append_of_stops hinside hstops, dropWhile_append_of_stops hinside hstops]

/-- No character of a text that is read as it is written is replaced. -/
theorem map_withoutNull {s : List Char} (hs : ∀ c ∈ s, isSteady c = true) :
    s.map withoutNull = s := by
  have heach : ∀ c ∈ s, withoutNull c = c := fun c hc => withoutNull_of_isSteady (hs c hc)
  rw [List.map_congr_left heach, List.map_id']

/-- The text of an element without markup is read back up to the end tag. -/
theorem next_textModel (foreign : Bool) {s : List Char} (hs : s ≠ [])
    (hsteady : ∀ c ∈ s, isSteady c = true)
    (hplain : Construction.escapableTags.contains tag = true ∨ escape s = s) (rest : List Char) :
    next (textModel tag) foreign (escape s ++ '<' :: '/' :: (tag.toList ++ '>' :: rest)) =
      (some (.text s), '<' :: '/' :: (tag.toList ++ '>' :: rest)) := by
  have hne : escape s ≠ [] := fun hnil => hs (escape_eq_nil_iff.1 hnil)
  have hbracket := not_mem_escape s
  obtain ⟨c, more, hcons⟩ := List.exists_cons_of_ne_nil hne
  unfold textModel
  by_cases hescapable : Construction.escapableTags.contains tag = true
  · have hdecode := Reference.decode_escape false s
    rw [hcons] at hbracket hdecode ⊢
    rw [if_pos hescapable, List.cons_append, next]
    rw [nextUpTo_append _ _ hbracket, hdecode, map_withoutNull hsteady]
  -- The text is written as it stands.
  have hsame := hplain.resolve_left hescapable
  rw [hsame] at hbracket hcons ⊢
  rw [if_neg hescapable]
  split
  · next hscript =>
    have hdata := scriptData_append hbracket rest
    have hnone : closing? "script" (c :: (more ++ '<' :: '/' :: (tag.toList ++ '>' :: rest))) =
        none := by
      refine closing?_eq_none _ ?_ _
      rintro rfl
      rw [hcons] at hbracket
      exact hbracket List.mem_cons_self
    rw [hcons] at hdata ⊢
    rw [List.cons_append, next]
    dsimp only
    rw [hnone, hscript]
    dsimp only
    rw [← List.cons_append, hdata]
    dsimp only
    rw [← hcons, map_withoutNull hsteady]
  · rw [hcons] at hbracket ⊢
    rw [List.cons_append, next]
    rw [nextUpTo_append _ _ hbracket, id_eq, ← hcons, map_withoutNull hsteady]

/-- The end tag of an element without markup is read back as one. -/
theorem next_textModel_endTag (foreign : Bool) (htag : tag ∈ Construction.textTags)
    (rest : List Char) :
    next (textModel tag) foreign ('<' :: '/' :: (tag.toList ++ '>' :: rest)) =
      (some (.endTag tag), rest) := by
  have hnames : ∀ t ∈ Construction.textTags,
      t.toList.map Char.toLower = t.toList ∧ isTagName t = true := by decide
  obtain ⟨hlower, hname⟩ := hnames tag htag
  have hfound := closing?_endTag hlower rest
  have hend := scanEndTag_append (isName_of_check hname) rest
  have hupTo : ∀ read, nextUpTo tag read '<' ('/' :: (tag.toList ++ '>' :: rest)) =
      (some (.endTag tag), rest) := by
    intro read
    rw [nextUpTo, hfound]
    exact hend
  unfold textModel
  split
  · exact hupTo _
  · split
    · next hscript =>
      subst hscript
      rw [next]
      dsimp only
      rw [hfound]
      exact hend
    · exact hupTo _

end Token

end MarkupOutline.Html
