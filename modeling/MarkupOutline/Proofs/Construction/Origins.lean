import Mathlib.Data.List.Infix
import Mathlib.Data.List.Nodup
import Mathlib.Data.List.TakeDrop
import Mathlib.Data.List.TakeWhile
import MarkupOutline.Html.Token.Scanning

/-!
# Where names come from

Whatever a token is, the text behind it is an end of the text it was read from, and the name of
every attribute in it is a piece of that text, without a slash and different from the names of the
others. So a whole run of tokens only has names that stand in the markup.
-/

namespace MarkupOutline.Html.Token

/-! ## The rest of a text -/

/-- What follows a value is an end of the text. -/
theorem scanValue_suffix (s : List Char) : (scanValue s).2 <:+ s := by
  have hspace := List.dropWhile_suffix (l := s) isSpace
  unfold scanValue
  split
  · next rest heq =>
    rw [heq] at hspace
    have hrest : rest.dropWhile isSpace <:+ s :=
      (List.dropWhile_suffix _).trans ((List.suffix_cons _ _).trans hspace)
    split
    · next value hquote =>
      rw [hquote] at hrest
      exact (List.drop_suffix _ _).trans
        ((List.dropWhile_suffix _).trans ((List.suffix_cons _ _).trans hrest))
    · next value hquote =>
      rw [hquote] at hrest
      exact (List.drop_suffix _ _).trans
        ((List.dropWhile_suffix _).trans ((List.suffix_cons _ _).trans hrest))
    · rw [List.span_eq_takeWhile_dropWhile]
      exact (List.dropWhile_suffix _).trans hrest
  · exact hspace

/-- What follows the data of a comment is an end of the text. -/
theorem commentData_suffix (s : List Char) : (commentData s).2 <:+ s := by
  fun_induction commentData s with
  | case1 => exact List.suffix_refl _
  | case2 rest => exact ⟨['-', '-', '>'], rfl⟩
  | case3 rest => exact ⟨['-', '-', '!', '>'], rfl⟩
  | case4 => exact List.nil_suffix
  | case5 => exact List.nil_suffix
  | case6 => exact List.nil_suffix
  | case7 c rest _ _ _ _ _ data rest' heq ih =>
    rw [heq] at ih
    exact ih.trans (List.suffix_cons c rest)

/-- What follows a marked section is an end of the text. -/
theorem sectionData_suffix (s : List Char) : (sectionData s).2 <:+ s := by
  fun_induction sectionData s with
  | case1 => exact List.suffix_refl _
  | case2 rest => exact ⟨[']', ']', '>'], rfl⟩
  | case3 c rest _ data rest' heq ih =>
    rw [heq] at ih
    exact ih.trans (List.suffix_cons c rest)

/-- What follows the characters of a script is an end of the text. -/
theorem scriptData_suffix (part : ScriptPart) (s : List Char) : (scriptData part s).2 <:+ s := by
  fun_induction scriptData part s with
  | case1 => exact List.suffix_refl _
  | case2 => exact List.suffix_refl _
  | case3 part c rest _ data rest' heq ih =>
    rw [heq] at ih
    exact ih.trans (List.suffix_cons c rest)

/-- What follows a word is an end of the text. -/
theorem after?_suffix {word : String} {s rest : List Char} (h : after? word s = some rest) :
    rest <:+ s := by
  unfold after? at h
  split at h
  · cases h
    exact List.drop_suffix _ _
  · cases h

/-! ## Names of attributes -/

/-- Every attribute is named by a piece of a text in which there is no slash. -/
def NamedIn (s : List Char) (attributes : List (String × String)) : Prop :=
  ∀ a ∈ attributes, ∃ word, word <:+: s ∧ '/' ∉ word ∧ a.1 = nameOf word

/-- The attributes of a tag are named by pieces of the text. -/
theorem scanAttributes_namedIn (bound : Nat) {s rest : List Char}
    {attributes : List (String × String)} {closed : Bool}
    (h : scanAttributes bound s = some (attributes, closed, rest)) :
    rest <:+ s ∧ NamedIn s attributes := by
  induction bound generalizing s rest attributes closed with
  | zero => cases h
  | succ bound ih =>
    have hspace := List.dropWhile_suffix (l := s) isSpace
    unfold scanAttributes at h
    split at h
    · cases h
    · next heq =>
      cases h
      rw [heq] at hspace
      exact ⟨(List.suffix_cons _ _).trans hspace, nofun⟩
    · next heq =>
      cases h
      rw [heq] at hspace
      exact ⟨(List.suffix_cons _ _).trans ((List.suffix_cons _ _).trans hspace), nofun⟩
    · next behind _ heq =>
      rw [heq] at hspace
      have hbehind := (List.suffix_cons _ _).trans hspace
      obtain ⟨hrest, hnamed⟩ := ih h
      refine ⟨hrest.trans hbehind, fun a ha => ?_⟩
      obtain ⟨word, hword, hname⟩ := hnamed a ha
      exact ⟨word, hword.trans hbehind.isInfix, hname⟩
    · next c behind _ _ hslash heq =>
      -- The name is the first character with those that go on with it.
      rw [List.span_eq_takeWhile_dropWhile] at h
      obtain ⟨⟨more, closed', rest'⟩, hmore, heq'⟩ := Option.map_eq_some_iff.1 h
      cases heq'
      rw [heq] at hspace
      have hvalue : (scanValue (behind.dropWhile inAttributeName)).2 <:+ s :=
        (scanValue_suffix _).trans
          ((List.dropWhile_suffix _).trans ((List.suffix_cons _ _).trans hspace))
      obtain ⟨hrest, hnamed⟩ := ih hmore
      refine ⟨hrest.trans hvalue, fun a ha => ?_⟩
      rcases List.mem_cons.1 ha with rfl | ha
      · have hprefix : c :: behind.takeWhile inAttributeName <+: c :: behind :=
          (List.prefix_cons_inj c).2 (List.takeWhile_prefix _)
        refine ⟨c :: behind.takeWhile inAttributeName, hprefix.isInfix.trans hspace.isInfix,
          fun hmem => ?_, rfl⟩
        rcases List.mem_cons.1 hmem with rfl | hmem
        · exact hslash rfl
        · exact absurd (List.mem_takeWhile_imp hmem) (by decide)
      · obtain ⟨word, hword, hname⟩ := hnamed a ha
        exact ⟨word, hword.trans hvalue.isInfix, hname⟩

/-- Attributes that are kept behind others, of which each name is kept once, are among those or
among the attributes themselves. -/
theorem mem_of_mem_foldl_first {a : String × String} (kept : List (String × String))
    {attributes : List (String × String)} (h : a ∈ attributes.foldl
      (fun kept a => if kept.any (·.1 = a.1) then kept else kept ++ [a]) kept) :
    a ∈ kept ∨ a ∈ attributes := by
  induction attributes generalizing kept with
  | nil => exact .inl h
  | cons b rest ih =>
    rw [List.foldl_cons] at h
    rcases ih _ h with hmem | hmem
    · split at hmem
      · exact .inl hmem
      · rcases List.mem_append.1 hmem with hmem | hmem
        · exact .inl hmem
        · rw [List.mem_singleton.1 hmem]
          exact .inr (List.mem_cons_self ..)
    · exact .inr (List.mem_cons_of_mem b hmem)

/-- Leaving out attributes whose name has occurred before adds none. -/
theorem mem_of_mem_firstOfEach {attributes : List (String × String)} {a : String × String}
    (h : a ∈ firstOfEach attributes) : a ∈ attributes :=
  (mem_of_mem_foldl_first [] h).resolve_left List.not_mem_nil

/-- Attributes with different names of which some are kept behind others have different names. -/
theorem nodup_foldl_first (kept attributes : List (String × String))
    (h : (kept.map Prod.fst).Nodup) : ((attributes.foldl
      (fun kept a => if kept.any (·.1 = a.1) then kept else kept ++ [a]) kept).map
        Prod.fst).Nodup := by
  induction attributes generalizing kept with
  | nil => exact h
  | cons a rest ih =>
    rw [List.foldl_cons]
    refine ih _ ?_
    split
    · exact h
    · next hnew =>
      have hname : a.1 ∉ kept.map Prod.fst := by
        intro hmem
        obtain ⟨b, hb, heq⟩ := List.mem_map.1 hmem
        exact hnew (List.any_eq_true.2 ⟨b, hb, decide_eq_true heq⟩)
      rw [List.map_append, List.map_singleton, ← List.concat_eq_append]
      exact h.concat hname

/-- No two attributes that are left have the same name. -/
theorem nodup_firstOfEach (attributes : List (String × String)) :
    ((firstOfEach attributes).map Prod.fst).Nodup :=
  nodup_foldl_first [] attributes List.nodup_nil

/-! ## Tokens -/

/-- Of a text, only an end is left, and the attributes that were found are named by pieces of it,
all differently. -/
structure Found.From (s : List Char) (found : Found) : Prop where
  rest : found.2 <:+ s
  named : ∀ tag, found.1 = some (.startTag tag) → NamedIn s tag.attributes
  nodup : ∀ tag, found.1 = some (.startTag tag) → (tag.attributes.map Prod.fst).Nodup

/-- What is found in an end of a text is found in the text. -/
theorem Found.From.mono {s s' : List Char} {found : Found} (h : found.From s) (hs : s <:+ s') :
    found.From s' := by
  refine ⟨h.rest.trans hs, fun tag htag a ha => ?_, h.nodup⟩
  obtain ⟨word, hword, hname⟩ := h.named tag htag a ha
  exact ⟨word, hword.trans hs.isInfix, hname⟩

/-- Whatever is no start tag has no attributes. -/
theorem Found.from_of_ne {s rest : List Char} {token? : Option Token} (hrest : rest <:+ s)
    (h : ∀ tag, token? ≠ some (.startTag tag)) : Found.From s (token?, rest) :=
  ⟨hrest, fun tag htag => absurd htag (h tag), fun tag htag => absurd htag (h tag)⟩

/-- What follows the name of a tag. -/
theorem scanTagRest_namedIn {s rest : List Char} {attributes : List (String × String)}
    {closed : Bool} (h : scanTagRest s = some (attributes, closed, rest)) :
    rest <:+ s ∧ NamedIn s attributes ∧ (attributes.map Prod.fst).Nodup := by
  obtain ⟨⟨found, closed', rest'⟩, hfound, heq⟩ := Option.map_eq_some_iff.1 h
  cases heq
  obtain ⟨hrest, hnamed⟩ := scanAttributes_namedIn _ hfound
  exact ⟨hrest, fun a ha => hnamed a (mem_of_mem_firstOfEach ha), nodup_firstOfEach found⟩

/-- A start tag. -/
theorem scanStartTag_from (s : List Char) : (scanStartTag s).From s := by
  unfold scanStartTag
  rw [List.span_eq_takeWhile_dropWhile]
  dsimp only
  split
  · exact Found.from_of_ne List.nil_suffix nofun
  · next attributes closed rest heq =>
    obtain ⟨hrest, hnamed, hnodup⟩ := scanTagRest_namedIn heq
    refine Found.From.mono ⟨hrest, ?_, ?_⟩ (List.dropWhile_suffix _)
    · rintro _ ⟨⟩
      exact hnamed
    · rintro _ ⟨⟩
      exact hnodup

/-- An end tag. -/
theorem scanEndTag_from (s : List Char) : (scanEndTag s).From s := by
  unfold scanEndTag
  rw [List.span_eq_takeWhile_dropWhile]
  dsimp only
  split
  · exact Found.from_of_ne List.nil_suffix nofun
  · next attributes closed rest heq =>
    obtain ⟨hrest, -⟩ := scanTagRest_namedIn heq
    exact Found.from_of_ne (hrest.trans (List.dropWhile_suffix _)) nofun

/-- Something that is taken for a comment. -/
theorem scanBogusComment_from (s : List Char) : (scanBogusComment s).From s := by
  unfold scanBogusComment
  rw [List.span_eq_takeWhile_dropWhile]
  exact Found.from_of_ne ((List.drop_suffix _ _).trans (List.dropWhile_suffix _)) nofun

/-- A comment. -/
theorem scanComment_from (s : List Char) : (scanComment s).From s := by
  unfold scanComment
  split
  · exact Found.from_of_ne (List.suffix_cons _ _) nofun
  · exact Found.from_of_ne ⟨['-', '>'], rfl⟩ nofun
  · exact Found.from_of_ne (commentData_suffix s) nofun

/-- A declaration. -/
theorem scanDeclaration_from (sections : Bool) (s : List Char) :
    (scanDeclaration sections s).From s := by
  unfold scanDeclaration
  split
  · next rest heq => exact (scanComment_from rest).mono (after?_suffix heq)
  · split
    · exact Found.from_of_ne ((List.drop_suffix _ _).trans (List.dropWhile_suffix _)) nofun
    · split
      · next rest heq =>
        have hrest : rest <:+ s := by
          split at heq
          · exact after?_suffix heq
          · cases heq
        refine Found.from_of_ne ((sectionData_suffix rest).trans hrest) fun tag => ?_
        split <;> exact nofun
      · exact scanBogusComment_from s

/-- Whatever an angle bracket begins. -/
theorem scanMarkup_from (sections : Bool) (s : List Char) : (scanMarkup sections s).From s := by
  unfold scanMarkup
  split
  · exact (scanDeclaration_from _ _).mono (List.suffix_cons _ _)
  · exact Found.from_of_ne ⟨['/', '>'], rfl⟩ nofun
  · split
    · exact (scanEndTag_from _).mono (List.suffix_cons _ _)
    · exact (scanBogusComment_from _).mono (List.suffix_cons _ _)
  · exact Found.from_of_ne List.nil_suffix nofun
  · exact scanBogusComment_from _
  · split
    · exact scanStartTag_from _
    · exact Found.from_of_ne (List.suffix_refl _) nofun
  · exact Found.from_of_ne (List.suffix_refl _) nofun

/-- Text up to an end tag. -/
theorem nextUpTo_from (element : String) (read : List Char → List Char) (c : Char)
    (s : List Char) : (nextUpTo element read c s).From (c :: s) := by
  unfold nextUpTo
  split
  · exact (scanEndTag_from _).mono ((List.drop_suffix _ _).trans (List.suffix_cons _ _))
  · rw [List.span_eq_takeWhile_dropWhile]
    exact Found.from_of_ne ((List.dropWhile_suffix _).trans (List.suffix_cons _ _)) nofun

/-- The first token of a text. -/
theorem next_from (model : ContentModel) (sections : Bool) (s : List Char) :
    (next model sections s).From s := by
  cases s with
  | nil => exact Found.from_of_ne (List.suffix_refl _) nofun
  | cons c rest =>
    cases model with
    | data =>
      rw [next]
      split
      · exact (scanMarkup_from sections rest).mono (List.suffix_cons c rest)
      · rw [List.span_eq_takeWhile_dropWhile]
        exact Found.from_of_ne ((List.dropWhile_suffix _).trans (List.suffix_cons c rest)) nofun
    | escapableText element => exact nextUpTo_from element _ c rest
    | rawText element => exact nextUpTo_from element id c rest
    | script =>
      rw [next]
      split
      · exact (scanEndTag_from _).mono ((List.drop_suffix _ _).trans (List.suffix_cons c rest))
      · exact Found.from_of_ne (scriptData_suffix .plain (c :: rest)) nofun
    | plain => exact Found.from_of_ne List.nil_suffix nofun

end MarkupOutline.Html.Token
