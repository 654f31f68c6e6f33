import MarkupOutline.Markup
import MarkupOutline.Proofs.Render.Payload
import MarkupOutline.Proofs.Text.Margins
import MarkupOutline.Render.Outline

/-!
# The lines of a comment

A comment whose data has line breaks is written line by line: the opening delimiter with the first
line of the data, the lines between moved to the depth below, and the last line with the closing
delimiter (`lines_comment`). The opening delimiter stands at the depth of the comment. The closing
delimiter stands there as well if nothing but white space is left in front of it; if text is left,
that text begins its line without any indentation, so the two delimiters line up only at the top
level (`margin_closerLine_iff`).
-/

namespace MarkupOutline.Layout

open Text

/-! ## The lines -/

/-- The line with the opening delimiter, behind which the first line of the data is written. -/
def openerLine (indent : Int) (first : List Char) : List Char :=
  indentation indent ++ "<!--".toList ++
    (if (movedLine indent first).isEmpty then [] else [' ']) ++ movedLine indent first

/-- The line with the closing delimiter, in front of which the last line of the data is written. -/
def closerLine (indent : Int) (last : List Char) : List Char :=
  trim last ++ (if allBlank last then indentation indent else [' ']) ++ "-->".toList

section Lines

variable {indent : Int} {data first last : List Char} {inner : List (List Char)}

/-- Data with line breaks, moved: the first line, and the others behind line feeds. -/
theorem movedLines_eq (hlines : lines data = first :: inner ++ [last]) :
    movedLines indent data = movedLine indent first ++
      ((inner.map (movedLine indent)).flatMap ('\n' :: ·) ++ '\n' :: trim last) := by
  rw [movedLines, hlines, reindent_concat, List.map_cons, List.cons_append, unlines_cons,
    List.flatMap_append, List.flatMap_singleton]

/-- A moved line has no line feed. -/
theorem not_mem_movedLine (indent : Int) {line : List Char} (h : line ∈ first :: inner)
    (hlines : lines data = first :: inner ++ [last]) : '\n' ∉ movedLine indent line := by
  have hreindent : movedLine indent line ∈ reindent indent (lines data) := by
    rw [hlines, reindent_concat]
    exact List.mem_append_left _ (List.mem_map_of_mem h)
  exact not_mem_of_mem_reindent hreindent

/-- The last line, trimmed, has no line feed. -/
theorem not_mem_trim_last (hlines : lines data = first :: inner ++ [last]) : '\n' ∉ trim last := by
  have hlast : last ∈ lines data := by simp [hlines]
  exact fun h => not_mem_of_mem_lines hlast (mem_of_mem_trim h)

/-- Data with line breaks is set off from the opening delimiter unless its first line, moved, is
empty. -/
theorem opening_movedLines (hlines : lines data = first :: inner ++ [last]) :
    opening (movedLines indent data) =
      if (movedLine indent first).isEmpty then [] else [' '] := by
  have hfeed := not_mem_movedLine indent (List.mem_cons_self ..) hlines
  rw [movedLines_eq hlines, opening]
  cases hfirst : movedLine indent first with
  | nil =>
    cases inner <;> rfl
  | cons c rest =>
    have hc : c ≠ '\n' := by
      rintro rfl
      rw [hfirst] at hfeed
      exact hfeed (List.mem_cons_self ..)
    simp [hc]

/-- Data with line breaks is set off from the closing delimiter by a space, or by indentation if its
last line is blank. -/
theorem closing_movedLines (hlines : lines data = first :: inner ++ [last]) :
    closing indent (movedLines indent data) =
      if allBlank last then indentation indent else [' '] := by
  have hends : endsLine (opening (movedLines indent data) ++ movedLines indent data) =
      allBlank last := by
    rw [Bool.eq_iff_iff, ← trim_eq_nil_iff, endsLine, beq_iff_eq]
    conv_lhs => rw [movedLines_eq hlines, ← List.append_assoc, ← List.append_assoc,
      List.getLast?_append_of_ne_nil _ (List.cons_ne_nil _ _)]
    constructor
    · intro hlast
      by_contra hne
      obtain ⟨c, rest, htrim⟩ := List.exists_cons_of_ne_nil hne
      rw [htrim, List.getLast?_cons_cons, ← htrim] at hlast
      exact not_mem_trim_last hlines (List.mem_of_getLast? hlast)
    · intro hnil
      rw [hnil]
      rfl
  rw [closing, hends]

/-- A comment whose data has line breaks begins a new line and is written line by line. -/
theorem comment_eq (hvisible : ¬ allBlank data = true)
    (hlines : lines data = first :: inner ++ [last]) :
    comment indent data = '\n' :: unlines
      (openerLine indent first :: inner.map (movedLine indent) ++ [closerLine indent last]) := by
  rw [comment, payload_eq indent hvisible, opening_movedLines hlines, closing_movedLines hlines,
    movedLines_eq hlines, List.cons_append, unlines_cons, openerLine, closerLine, newline]
  simp only [List.flatMap_append, List.flatMap_singleton, List.append_assoc, List.cons_append]

/-- The lines of a comment whose data has line breaks. The first of them belongs to what stands in
front of the comment. -/
theorem lines_comment (hvisible : ¬ allBlank data = true)
    (hlines : lines data = first :: inner ++ [last]) :
    lines (comment indent data) = [] ::
      (openerLine indent first :: inner.map (movedLine indent) ++ [closerLine indent last]) := by
  rw [comment_eq hvisible hlines, lines, if_pos rfl, lines_unlines (by simp)]
  intro l hl
  rcases List.mem_append.1 hl with hl | hl
  · rcases List.mem_cons.1 hl with rfl | hl
    · have hfirst := not_mem_movedLine indent (List.mem_cons_self ..) hlines
      unfold openerLine
      split <;> simp [not_mem_indentation, hfirst]
    · obtain ⟨line, hline, rfl⟩ := List.mem_map.1 hl
      exact not_mem_movedLine indent (List.mem_cons_of_mem _ hline) hlines
  · rw [List.mem_singleton.1 hl, closerLine]
    split <;> simp [not_mem_indentation, not_mem_trim_last hlines]

end Lines

/-- Data with line breaks has a first line and a last one. -/
theorem exists_lines_eq {data : List Char} (hfeed : '\n' ∈ data) :
    ∃ first inner last, lines data = first :: inner ++ [last] := by
  obtain ⟨front, last, hlines, -⟩ := exists_lines_append data
  cases front with
  | nil =>
    have hone : data = last := by
      rw [← unlines_lines data, hlines]
      rfl
    rw [hone] at hfeed
    exact absurd hfeed (not_mem_of_mem_lines (s := data) (by simp [hlines]))
  | cons first inner => exact ⟨first, inner, last, hlines⟩

/-! ## Where the delimiters stand -/

/-- The margin of a line that is indented is its indentation. -/
theorem margin_indentation_append (indent : Int) {s : List Char} (hs : StartsVisibly s) :
    margin (indentation indent ++ s) = indentation indent := by
  rw [margin_append_of_startsVisibly _ hs, margin, List.takeWhile_eq_self_iff]
  exact (allBlank_iff _).1 (allBlank_indentation indent)

/-- The opening delimiter stands at the depth of the comment. -/
theorem margin_openerLine (indent : Int) (first : List Char) :
    margin (openerLine indent first) = indentation indent := by
  rw [openerLine, List.append_assoc, List.append_assoc]
  exact margin_indentation_append indent ⟨'<', _, rfl, by decide⟩

/-- The closing delimiter stands at the depth of the comment if the last line of the data is blank.
Otherwise its line is not indented at all. -/
theorem margin_closerLine (indent : Int) (last : List Char) :
    margin (closerLine indent last) = if allBlank last then indentation indent else [] := by
  rw [closerLine]
  split
  · next hblank =>
    rw [(trim_eq_nil_iff last).2 hblank, List.nil_append]
    exact margin_indentation_append indent ⟨'-', _, rfl, by decide⟩
  · next hvisible =>
    have hstart : StartsVisibly (trim last) :=
      (isTrimmed_trim last).startsVisibly fun hnil => hvisible ((trim_eq_nil_iff last).1 hnil)
    rw [List.append_assoc]
    exact margin_append_of_startsVisibly [] (hstart.append_right _)

/-- A comment whose data is not blank and has line breaks is written on several lines. The first of
them, with the opening delimiter, is indented by two spaces for each level. The last of them, with
the closing delimiter, lines up with it if and only if the comment is at the top level or the last
line of the data is blank; otherwise that line is not indented at all. -/
theorem margin_closerLine_iff (k : Nat) {data : List Char} (hvisible : allBlank data = false)
    (hfeed : '\n' ∈ data) :
    ∃ first inner last, lines data = first :: inner ++ [last] ∧
      lines (comment k data) =
        [] :: (openerLine k first :: inner.map (movedLine k) ++ [closerLine k last]) ∧
      margin (openerLine k first) = List.replicate (2 * k) ' ' ∧
      (margin (closerLine k last) = List.replicate (2 * k) ' ' ↔ k = 0 ∨ allBlank last = true) ∧
      (allBlank last = false → margin (closerLine k last) = []) := by
  obtain ⟨first, inner, last, hlines⟩ := exists_lines_eq hfeed
  refine ⟨first, inner, last, hlines, lines_comment (by simp [hvisible]) hlines,
    margin_openerLine k first, ?_, ?_⟩
  · rw [margin_closerLine]
    cases allBlank last with
    | true => exact iff_of_true rfl (.inr rfl)
    | false =>
      rw [if_neg Bool.false_ne_true, eq_comm, List.replicate_eq_nil_iff]
      simp only [Bool.false_eq_true, or_false]
      omega
  · intro hlast
    rw [margin_closerLine, hlast]
    rfl

/-- A comment at level two that ends with a line of its own. -/
theorem margin_closerLine_iff_list :
    let data := "\n one\n\n   two\n ".toList
    allBlank data = false ∧ '\n' ∈ data ∧
      ∃ first inner last, lines data = first :: inner ++ [last] ∧
        lines (comment (2 : Nat) data) =
          [] :: (openerLine (2 : Nat) first :: inner.map (movedLine (2 : Nat)) ++
            [closerLine (2 : Nat) last]) ∧
        margin (openerLine (2 : Nat) first) = List.replicate 4 ' ' ∧
        (margin (closerLine (2 : Nat) last) = List.replicate 4 ' ' ↔
          2 = 0 ∨ allBlank last = true) ∧
        (allBlank last = false → margin (closerLine (2 : Nat) last) = []) := by
  intro data
  have hvisible : allBlank data = false := by decide
  have hfeed : '\n' ∈ data := by decide
  exact ⟨hvisible, hfeed, margin_closerLine_iff 2 hvisible hfeed⟩

/-- In a division a comment that ends with text has its closing delimiter on a line that begins with
this text, without the indentation of the opening delimiter. -/
theorem comment_closer_not_aligned :
    let data := "\n  one\n  two"
    Fragment.ofMarkup "<div><!--\n  one\n  two--></div>" =
        .ok ⟨[.element "div" [] [.comment data]]⟩ ∧
      Fragment.render .default ⟨[.element "div" [] [.comment data]]⟩ =
        "<div>\n  <!--\n    one\ntwo -->\n</div>" ∧
      allBlank data.toList = false ∧ '\n' ∈ data.toList ∧
      (lines (comment 1 data.toList)).getLast? = some "two -->".toList ∧
      margin "two -->".toList ≠ List.replicate (2 * 1) ' ' := by
  decide +kernel

end MarkupOutline.Layout
