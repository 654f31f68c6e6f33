import MarkupOutline.Proofs.Text.Deepening
import MarkupOutline.Proofs.Text.Escaping

/-!
# Margins

The margin of a line is the white space that it begins with. When texts are put together, the margin
of the line in which they meet is that of the first text if this line already shows something
(`margins_append`), and also if the second text begins visibly (`margins_append_of_startsVisibly`).
Escaping changes no margin.

Two texts are aligned if they have the same white space at their two ends and equal margins between
them (`Aligned`). Aligned pieces make up aligned texts, and aligned texts have equal margins when
they are trimmed.
-/

namespace MarkupOutline.Text

/-! ## Margins of lines -/

/-- The white space that a line begins with. -/
def margin (line : List Char) : List Char := line.takeWhile isBlank

/-- The margins of the lines of a text. -/
def margins (s : List Char) : List (List Char) := (lines s).map margin

/-- The margin of a line that shows something does not depend on what is behind it. -/
theorem margin_append {line : List Char} (h : allBlank line = false) (t : List Char) :
    margin (line ++ t) = margin line := by
  induction line with
  | nil => cases h
  | cons c rest ih =>
    rw [List.cons_append, margin, List.takeWhile_cons, margin, List.takeWhile_cons]
    cases hc : isBlank c with
    | false => rfl
    | true =>
      rw [allBlank_cons, hc, Bool.true_and] at h
      rw [if_pos rfl, if_pos rfl, ← margin, ih h, margin]

/-- What begins visibly has no part in a margin. -/
theorem margin_append_of_startsVisibly (line : List Char) {t : List Char} (ht : StartsVisibly t) :
    margin (line ++ t) = margin line := by
  cases h : allBlank line with
  | false => exact margin_append h t
  | true =>
    -- All of the line is margin, and the first character behind it ends the margin.
    obtain ⟨c, rest, rfl, hc⟩ := ht
    have hline : ∀ d ∈ line, isBlank d = true := (allBlank_iff line).1 h
    rw [margin, List.takeWhile_append_of_pos hline, List.takeWhile_cons, hc, margin,
      List.takeWhile_eq_self_iff.2 hline]
    exact List.append_nil line

/-- The margins of two texts on both sides of a line feed. -/
theorem margins_append_newline (s t : List Char) :
    margins (s ++ '\n' :: t) = margins s ++ margins t := by
  rw [margins, lines_append_newline, List.map_append, margins, margins]

/-- A text without a line feed has one margin. -/
theorem margins_of_not_mem {s : List Char} (h : '\n' ∉ s) : margins s = [margin s] := by
  rw [margins, lines_of_not_mem h, List.map_singleton]

/-! ## Lines that show something -/

/-- A text shows something on its last line. -/
def ShowsLast (s : List Char) : Prop :=
  ∃ front last, lines s = front ++ [last] ∧ allBlank last = false

/-- A text that ends visibly shows something on its last line. -/
theorem EndsVisibly.showsLast {s : List Char} (h : EndsVisibly s) : ShowsLast s := by
  obtain ⟨body, c, rfl, hc⟩ := h
  obtain ⟨front, last, -, happend⟩ := exists_lines_append body
  have hfeed : '\n' ∉ [c] := by
    rw [List.mem_singleton]
    rintro rfl
    exact absurd hc (by decide)
  refine ⟨front, last ++ [c], happend [c] hfeed, ?_⟩
  rw [allBlank_append, allBlank_cons, hc, Bool.false_and, Bool.and_false]

/-- What a text shows on its last line is still there when the line goes on. -/
theorem ShowsLast.append {s t : List Char} (h : ShowsLast s) (ht : '\n' ∉ t) :
    ShowsLast (s ++ t) := by
  obtain ⟨front, last, hlines, hlast⟩ := h
  obtain ⟨front', last', hlines', happend⟩ := exists_lines_append s
  obtain ⟨-, hlasts⟩ := List.append_inj' (hlines.symm.trans hlines') rfl
  obtain rfl : last = last' := (List.cons.inj hlasts).1
  refine ⟨front', last ++ t, happend t ht, ?_⟩
  rw [allBlank_append, hlast, Bool.false_and]

/-- Text behind a line that shows something adds the margins of the lines that begin inside of
it. -/
theorem margins_append {s : List Char} (hs : ShowsLast s) (t : List Char) :
    margins (s ++ t) = margins s ++ (margins t).tail := by
  obtain ⟨front, last, first, more, hls, hlt, happend⟩ := exists_lines_append_lines s t
  obtain ⟨front', last', hlines, hlast⟩ := hs
  obtain ⟨-, hlasts⟩ := List.append_inj' (hls.symm.trans hlines) rfl
  obtain rfl : last = last' := (List.cons.inj hlasts).1
  rw [margins, happend, margins, hls, margins, hlt]
  simp [margin_append hlast]

/-- Text that begins visibly adds the margins of the lines that begin inside of it. -/
theorem margins_append_of_startsVisibly (s : List Char) {t : List Char} (ht : StartsVisibly t) :
    margins (s ++ t) = margins s ++ (margins t).tail := by
  obtain ⟨front, last, first, more, hls, hlt, happend⟩ := exists_lines_append_lines s t
  have hfirst : StartsVisibly first := by
    obtain ⟨c, rest, rfl, hc⟩ := ht
    have hfeed : c ≠ '\n' := by
      rintro rfl
      exact absurd hc (by decide)
    rw [lines, if_neg hfeed] at hlt
    split at hlt
    · exact ⟨c, [], (List.cons.inj hlt).1.symm, hc⟩
    · next line _ _ => exact ⟨c, line, (List.cons.inj hlt).1.symm, hc⟩
  rw [margins, happend, margins, hls, margins, hlt]
  simp [margin_append_of_startsVisibly last hfirst]

/-! ## Escaped text -/

/-- A text without a line feed that is put in front of another one goes into its first line. -/
theorem lines_append_of_not_mem {w : List Char} (hw : '\n' ∉ w) (t : List Char) :
    ∃ first more, lines t = first :: more ∧ lines (w ++ t) = (w ++ first) :: more := by
  obtain ⟨front, last, first, more, hlw, hlt, happend⟩ := exists_lines_append_lines w t
  rw [lines_of_not_mem hw, ← List.nil_append [w]] at hlw
  obtain ⟨rfl, hlast⟩ := List.append_inj' hlw rfl
  obtain rfl : w = last := (List.cons.inj hlast).1
  exact ⟨first, more, hlt, happend⟩

/-- The lines of an escaped text are those of the text, escaped. -/
theorem lines_escape (s : List Char) : lines (escape s) = (lines s).map escape := by
  induction s with
  | nil => rfl
  | cons c rest ih =>
    rw [escape_cons]
    by_cases hc : c = '\n'
    · have hfeed : escapeChar c = ['\n'] := by
        rw [hc]
        decide
      rw [hfeed, List.singleton_append, lines, if_pos rfl, lines, if_pos hc, ih]
      rfl
    · -- No other character has a line feed in its escaped form, so the first line goes on.
      have hfeed : '\n' ∉ escapeChar c := fun h => hc (eq_of_mem_escapeChar (by decide) h).symm
      obtain ⟨first, more, hrest, hlines⟩ := lines_append_of_not_mem hfeed (escape rest)
      rw [hlines, lines, if_neg hc]
      rw [ih] at hrest
      cases hl : lines rest with
      | nil => exact absurd hl (lines_ne_nil rest)
      | cons line others =>
        rw [hl] at hrest
        obtain ⟨rfl, rfl⟩ := List.cons.inj hrest
        rw [List.map_cons, escape_cons]

/-- A line has the same margin when it is escaped. -/
theorem margin_escape (line : List Char) : margin (escape line) = margin line := by
  obtain ⟨front, hline, hfront, hrest⟩ := exists_append_trimStart line
  rw [hline, escape_append, escape_of_allBlank hfront]
  rcases hrest with hnil | hvisible
  · rw [hnil, escape_nil]
  · rw [margin_append_of_startsVisibly front hvisible,
      margin_append_of_startsVisibly front (startsVisibly_escape hvisible)]

/-- The lines of a text have the same margins when it is escaped. -/
theorem margins_escape (s : List Char) : margins (escape s) = margins s := by
  rw [margins, lines_escape, List.map_map, margins]
  exact List.map_congr_left fun line _ => margin_escape line

/-! ## Aligned texts -/

/-- Two texts that show something between the same white space at both ends, with the same
margins. -/
structure AlignedBetween (l u v r : List Char) : Prop where
  front : allBlank l = true
  back : allBlank r = true
  starts : StartsVisibly u ∧ StartsVisibly v
  ends : EndsVisibly u ∧ EndsVisibly v
  margins : margins u = margins v

/-- Two texts that are the same white space, or that show something with the same margins between
the same white space. -/
def Aligned (s t : List Char) : Prop :=
  (s = t ∧ allBlank s = true) ∨
    ∃ l u v r, s = l ++ u ++ r ∧ t = l ++ v ++ r ∧ AlignedBetween l u v r

namespace Aligned

variable {s t s' t' : List Char}

/-- White space is aligned with itself. -/
theorem of_allBlank (h : allBlank s = true) : Aligned s s := .inl ⟨rfl, h⟩

/-- Texts that are visible at their ends are aligned if their margins are equal. -/
theorem of_margins (hs : StartsVisibly s ∧ EndsVisibly s) (ht : StartsVisibly t ∧ EndsVisibly t)
    (h : margins s = margins t) : Aligned s t :=
  .inr ⟨[], s, t, [], (List.append_nil s).symm, (List.append_nil t).symm,
    rfl, rfl, ⟨hs.1, ht.1⟩, ⟨hs.2, ht.2⟩, h⟩

/-- A text is aligned with itself. -/
theorem refl (s : List Char) : Aligned s s := by
  obtain ⟨l, r, hs, hl, hr, htrim⟩ := exists_append_trim s
  by_cases hnil : trim s = []
  · exact of_allBlank ((trim_eq_nil_iff s).1 hnil)
  · have hstarts := htrim.startsVisibly hnil
    have hends := htrim.endsVisibly hnil
    exact .inr ⟨l, trim s, trim s, r, hs, hs, hl, hr, ⟨hstarts, hstarts⟩, ⟨hends, hends⟩, rfl⟩

/-- Alignment does not depend on the order of the texts. -/
theorem symm (h : Aligned s t) : Aligned t s := by
  obtain ⟨rfl, hblank⟩ | ⟨l, u, v, r, hs, ht, h⟩ := h
  · exact .inl ⟨rfl, hblank⟩
  · exact .inr ⟨l, v, u, r, ht, hs, h.front, h.back, h.starts.symm, h.ends.symm, h.margins.symm⟩

/-- Aligned pieces one after the other are aligned. -/
theorem append (h : Aligned s t) (h' : Aligned s' t') : Aligned (s ++ s') (t ++ t') := by
  obtain ⟨rfl, hblank⟩ | ⟨l, u, v, r, rfl, rfl, h⟩ := h
  · obtain ⟨rfl, hblank'⟩ | ⟨l', u', v', r', rfl, rfl, h'⟩ := h'
    · refine of_allBlank ?_
      rw [allBlank_append, hblank, hblank']
      rfl
    · refine .inr ⟨s ++ l', u', v', r', by simp only [List.append_assoc],
        by simp only [List.append_assoc], ?_, h'.back, h'.starts, h'.ends, h'.margins⟩
      rw [allBlank_append, hblank, h'.front]
      rfl
  · obtain ⟨rfl, hblank'⟩ | ⟨l', u', v', r', rfl, rfl, h'⟩ := h'
    · refine .inr ⟨l, u, v, r ++ s', by simp only [List.append_assoc],
        by simp only [List.append_assoc], h.front, ?_, h.starts, h.ends, h.margins⟩
      rw [allBlank_append, h.back, hblank']
      rfl
    · -- The white space between the two pieces is the same on both sides.
      have hmargins {x y : List Char} (hx : EndsVisibly x) (hy : StartsVisibly y) :
          Text.margins (x ++ (r ++ l') ++ y) =
            Text.margins x ++ (Text.margins (r ++ l')).tail ++ (Text.margins y).tail := by
        rw [margins_append_of_startsVisibly _ hy, margins_append hx.showsLast]
      refine .inr ⟨l, u ++ (r ++ l') ++ u', v ++ (r ++ l') ++ v', r',
        by simp only [List.append_assoc], by simp only [List.append_assoc], h.front, h'.back,
        ⟨(h.starts.1.append_right _).append_right _, (h.starts.2.append_right _).append_right _⟩,
        ⟨h'.ends.1.append_left _, h'.ends.2.append_left _⟩, ?_⟩
      rw [hmargins h.ends.1 h'.starts.1, hmargins h.ends.2 h'.starts.2, h.margins, h'.margins]

/-- A text is aligned with its escaped form. -/
theorem escape (s : List Char) : Aligned (Text.escape s) s := by
  obtain ⟨l, r, hs, hl, hr, htrim⟩ := exists_append_trim s
  by_cases hnil : trim s = []
  · have hblank := (trim_eq_nil_iff s).1 hnil
    rw [escape_of_allBlank hblank]
    exact of_allBlank hblank
  · have hstarts := htrim.startsVisibly hnil
    have hends := htrim.endsVisibly hnil
    have hescaped : Text.escape s = l ++ Text.escape (trim s) ++ r := by
      conv_lhs => rw [hs]
      rw [escape_append, escape_append, escape_of_allBlank hl, escape_of_allBlank hr]
    exact .inr ⟨l, Text.escape (trim s), trim s, r, hescaped, hs, hl, hr,
      ⟨startsVisibly_escape hstarts, hstarts⟩, ⟨endsVisibly_escape hends, hends⟩,
      margins_escape _⟩

/-- Aligned texts have equal margins when they are trimmed. -/
theorem margins_trim (h : Aligned s t) : Text.margins (trim s) = Text.margins (trim t) := by
  obtain ⟨rfl, -⟩ | ⟨l, u, v, r, rfl, rfl, h⟩ := h
  · rfl
  · rw [trim_eq_of_isTrimmed h.front h.back (h.starts.1.isTrimmed h.ends.1),
      trim_eq_of_isTrimmed h.front h.back (h.starts.2.isTrimmed h.ends.2), h.margins]

end Aligned

end MarkupOutline.Text
