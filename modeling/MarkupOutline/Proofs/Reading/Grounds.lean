import MarkupOutline.Proofs.Reading.Stacks

/-!
# Modes and what stands inside of elements

The mode of construction depends on the names of the open elements (`modeWithin`). Where elements
have been opened in place, one inside of the other, it fits what can stand inside of the innermost
one: flow content is taken up in the mode of flow content, of a caption or of a cell
(`NestInPlace.modeWithin_flow`), and each part of a table in a mode of its own.
-/

namespace MarkupOutline.Html.Construction

/-! ## The mode -/

/-- The elements that have a mode of their own. -/
def modeTags : List String := ["select", "table", "caption", "colgroup", "tr"] ++ rowGroups ++ cells

/-- The mode inside of elements with the given names. -/
def modeWithin : List String → Mode
  | [] => .body
  | name :: outer =>
    if name = "select" then if outer.contains "table" then .selectInTable else .select
    else if cells.contains name then .cell
    else if name = "tr" then .row
    else if rowGroups.contains name then .tableBody
    else if name = "caption" then .caption
    else if name = "colgroup" then .columnGroup
    else if name = "table" then .table
    else modeWithin outer

/-- The mode that fits a stack of ordinary elements is the one inside of their names. -/
theorem fittingMode_eq {s : Stack} (h : s.IsPlain) : fittingMode s = modeWithin s.names := by
  induction s with
  | nil => rfl
  | cons f below ih =>
    have hf := h f (by simp)
    have htable : (below.any fun g => g.isHtml "table") = (Stack.names below).contains "table" := by
      rw [Bool.eq_iff_iff, List.any_eq_true, List.contains_iff_mem, Stack.names, List.mem_map]
      refine exists_congr fun g => and_congr_right fun hg => ?_
      rw [(h.tail g hg).isHtml_eq, decide_eq_true_iff]
    have hcells : cells.contains f.name = (decide (f.name = "td") || decide (f.name = "th")) := by
      simp [cells]
    have hgroups : rowGroups.contains f.name =
        (decide (f.name = "tbody") || decide (f.name = "thead") || decide (f.name = "tfoot")) := by
      simp [rowGroups, Bool.or_assoc, Bool.or_comm (decide (f.name = "tfoot"))]
    rw [Stack.names, List.map_cons, fittingMode, modeWithin, if_neg (by simp [hf.space_eq]), htable,
      ih h.tail, hcells, hgroups]
    rfl

/-- Most elements have no mode of their own. -/
theorem modeWithin_cons {name : String} (h : name ∉ modeTags) (outer : List String) :
    modeWithin (name :: outer) = modeWithin outer := by
  have hne : ∀ other ∈ modeTags, name ≠ other :=
    fun _ hother => (ne_of_mem_of_not_mem hother h).symm
  have hlists := contains_eq_false_of_subset h
  rw [modeWithin, if_neg (hne "select" (by decide)), hlists cells (by decide),
    if_neg (by decide), if_neg (hne "tr" (by decide)), hlists rowGroups (by decide),
    if_neg (by decide), if_neg (hne "caption" (by decide)), if_neg (hne "colgroup" (by decide)),
    if_neg (hne "table" (by decide))]

/-- Every group of rows has the same mode. -/
theorem modeWithin_rowGroup {name : String} (h : rowGroups.contains name = true)
    (outer : List String) : modeWithin (name :: outer) = .tableBody := by
  have hother : ∀ n ∈ rowGroups, n ≠ "select" ∧ cells.contains n = false ∧ n ≠ "tr" := by decide
  obtain ⟨hselect, hcells, hrow⟩ := hother name (List.contains_iff_mem.1 h)
  rw [modeWithin, if_neg hselect, hcells, if_neg (by decide), if_neg hrow, if_pos h]

/-- Every cell has the same mode. -/
theorem modeWithin_cell {name : String} (h : cells.contains name = true) (outer : List String) :
    modeWithin (name :: outer) = .cell := by
  have hselect := (by decide : ∀ n ∈ cells, n ≠ "select") name (List.contains_iff_mem.1 h)
  rw [modeWithin, if_neg hselect, if_pos h]

/-- Elements without a mode of their own hold flow content, unless they are options of a selection
list. -/
theorem ground_cons {name : String} (h : name ∉ modeTags) (outer : List String) :
    ground (name :: outer) =
      if (name = "optgroup" || name = "option") && ground outer = .options then .options
      else .flow := by
  have hne : ∀ other ∈ modeTags, name ≠ other :=
    fun _ hother => (ne_of_mem_of_not_mem hother h).symm
  have hgroups := contains_eq_false_of_subset h rowGroups (by decide)
  rw [ground, if_neg (hne "table" (by decide)), if_neg (hne "colgroup" (by decide)), hgroups,
    if_neg (by decide), if_neg (hne "tr" (by decide)), if_neg (hne "select" (by decide))]

/-! ## What stands inside of elements in place -/

/-- The elements that hold something other than flow content, by what they hold. -/
def holders : Ground → List String
  | .flow => []
  | .table => ["table"]
  | .columns => ["colgroup"]
  | .rows => rowGroups
  | .row => ["tr"]
  | .options => ["select", "optgroup", "option"]

/-- The modes of construction, by what can stand inside of the innermost element. -/
def modesIn : Ground → List Mode
  | .flow => [.body, .caption, .cell]
  | .table => [.table]
  | .columns => [.columnGroup]
  | .rows => [.tableBody]
  | .row => [.row]
  | .options => [.select, .selectInTable]

/-- Whether text waits for its place: directly in a table, in a group of rows or in a row. -/
def delaysText : Ground → Bool
  | .table | .rows | .row => true
  | _ => false

variable {names : List String} {tag : String}

/-- What holds something other than flow content tells what it holds. -/
theorem mem_holders (name : String) (outer : List String) (h : ground (name :: outer) ≠ .flow) :
    name ∈ holders (ground (name :: outer)) := by
  rw [ground] at h ⊢
  repeat' split
  all_goals simp_all [holders]

/-- Where an element belongs: a part of a table in the table, in a group of rows or in a row, and
any other element in flow content. -/
def homeOf (tag : String) : Ground :=
  if ("caption" :: "colgroup" :: rowGroups).contains tag then .table
  else if tag = "tr" then .rows
  else if cells.contains tag then .row
  else .flow

/-- An element that opens in place is where it belongs, or an option of a selection list. -/
theorem ground_of_opensInPlace (h : opensInPlace names tag = true) :
    ground names = homeOf tag ∨ ground names = .options ∧ (tag = "option" ∨ tag = "optgroup") := by
  unfold opensInPlace at h
  cases hground : ground names with
  | flow =>
    rw [hground, Bool.and_eq_true, Bool.not_eq_true'] at h
    -- Flow content has no parts of tables.
    have hout := contains_eq_false_iff.1 h.1
    have hlists := contains_eq_false_of_subset hout
    have hrow : tag ≠ "tr" := (ne_of_mem_of_not_mem (by decide) hout).symm
    left
    rw [homeOf, hlists _ (by decide), if_neg (by decide), if_neg hrow, hlists cells (by decide),
      if_neg (by decide)]
  | table =>
    rw [hground] at h
    exact .inl (if_pos h).symm
  | columns =>
    rw [hground] at h
    cases h
  | rows =>
    rw [hground, decide_eq_true_eq] at h
    subst h
    exact .inl rfl
  | row =>
    rw [hground, List.contains_iff_mem] at h
    exact .inl ((by decide : ∀ t ∈ cells, homeOf t = .row) tag h).symm
  | options =>
    rw [hground, Bool.or_eq_true, Bool.and_eq_true, Bool.and_eq_true, decide_eq_true_eq,
      decide_eq_true_eq] at h
    exact .inr ⟨rfl, h.imp And.left And.left⟩

/-- An element other than an option that opens in place is where it belongs. -/
theorem ground_eq_homeOf (h : opensInPlace names tag = true)
    (htag : tag ≠ "option" ∧ tag ≠ "optgroup") : ground names = homeOf tag :=
  (ground_of_opensInPlace h).resolve_right fun hother => hother.2.elim htag.1 htag.2

/-- An element without a mode of its own belongs in flow content. -/
theorem homeOf_eq_flow (h : tag ∉ modeTags) : homeOf tag = .flow := by
  have hlists := contains_eq_false_of_subset h
  have hrow : tag ≠ "tr" := (ne_of_mem_of_not_mem (by decide) h).symm
  rw [homeOf, hlists _ (by decide), if_neg (by decide), if_neg hrow, hlists cells (by decide),
    if_neg (by decide)]

/-- An element without a mode of its own holds what the element around it holds. -/
theorem ground_cons_eq (h : opensInPlace names tag = true) (htag : tag ∉ modeTags) :
    ground (tag :: names) = ground names := by
  rw [ground_cons htag]
  rcases ground_of_opensInPlace h with hhome | ⟨hoptions, hoption⟩
  · rw [hhome, homeOf_eq_flow htag]
    simp
  · rw [hoptions, if_pos (by rcases hoption with rfl | rfl <;> decide)]

namespace NestInPlace

/-- The elements around an element that has been opened in place. -/
theorem outer (h : NestInPlace (tag :: names)) (hroot : names ≠ []) :
    NestInPlace names ∧ opensInPlace names tag = true := by
  cases h with
  | root => exact absurd rfl hroot
  | opened hnames hopens => exact ⟨hnames, hopens⟩

/-- No element that never has content has been opened. -/
theorem not_mem_emptyTags (h : NestInPlace names) {name : String} (hname : name ∈ names) :
    name ∉ emptyTags := by
  induction h with
  | root =>
    rw [List.mem_singleton.1 hname]
    decide
  | opened _ hopens ih =>
    rcases List.mem_cons.1 hname with rfl | hname
    · exact not_mem_of_opensInPlace hopens emptyTags (by decide)
    · exact ih hname

/-- The mode fits what can stand inside of the innermost element. -/
theorem modeWithin_mem (h : NestInPlace names) : modeWithin names ∈ modesIn (ground names) := by
  induction h with
  | root => decide
  | @opened names tag _ hopens ih =>
    by_cases hmode : tag ∈ modeTags
    · simp only [modeTags, rowGroups, cells, List.cons_append, List.nil_append, List.mem_cons,
        List.not_mem_nil, or_false] at hmode
      rcases hmode with rfl | rfl | rfl | rfl | rfl | rfl | rfl | rfl | rfl | rfl
      · -- A selection list has one of two modes.
        rw [modeWithin, if_pos rfl]
        split <;> simp [ground, modesIn, rowGroups]
      all_goals simp [ground, modeWithin, modesIn, rowGroups, cells]
    · rwa [modeWithin_cons hmode, ground_cons_eq hopens hmode]

/-- The parts of a table stand in a table. -/
theorem table_mem (h : NestInPlace names)
    (hpart : ground names ∈ [Ground.table, .columns, .rows, .row]) : "table" ∈ names := by
  induction h with
  | root => exact absurd hpart (by decide)
  | @opened names tag _ hopens ih =>
    have hholds := mem_holders tag names fun hflow => absurd (hflow ▸ hpart) (by decide)
    by_cases htable : tag = "table"
    · exact List.mem_cons.2 (.inl htable.symm)
    · -- The element is a part of a table itself.
      have htag : tag ∈ "colgroup" :: "tr" :: rowGroups := by
        generalize ground (tag :: names) = g at hpart hholds
        cases g <;> simp_all [holders]
      have hparts : ∀ t ∈ "colgroup" :: "tr" :: rowGroups,
          (t ≠ "option" ∧ t ≠ "optgroup") ∧
            homeOf t ∈ [Ground.table, .columns, .rows, .row] := by decide
      obtain ⟨hother, hhome⟩ := hparts tag htag
      refine List.mem_cons_of_mem _ (ih ?_)
      rwa [ground_eq_homeOf hopens hother]

/-- Flow content is taken up in a mode for tables if and only if it stands in a table. -/
theorem isTableMode_eq (h : NestInPlace names) (hflow : ground names = .flow) :
    [Mode.table, .caption, .tableBody, .row, .cell].contains (modeWithin names) =
      names.contains "table" := by
  induction h with
  | root => decide
  | @opened names tag hnames hopens ih =>
    by_cases hmode : tag ∈ modeTags
    · -- Of the elements with modes of their own, captions and cells hold flow content.
      have htag : tag ∈ "caption" :: cells := by
        simp only [modeTags, rowGroups, cells, List.cons_append, List.nil_append, List.mem_cons,
          List.not_mem_nil, or_false] at hmode ⊢
        rcases hmode with rfl | rfl | rfl | rfl | rfl | rfl | rfl | rfl | rfl | rfl <;>
          simp_all [ground, rowGroups]
      have hparts : ∀ t ∈ "caption" :: cells, (t ≠ "option" ∧ t ≠ "optgroup") ∧
          homeOf t ∈ [Ground.table, .columns, .rows, .row] := by decide
      obtain ⟨hother, hhome⟩ := hparts tag htag
      have htable : "table" ∈ names :=
        hnames.table_mem (by rwa [ground_eq_homeOf hopens hother])
      have hmodes : [Mode.table, .caption, .tableBody, .row, .cell].contains
          (modeWithin (tag :: names)) = true := by
        simp only [cells, List.mem_cons, List.not_mem_nil, or_false] at htag
        rcases htag with rfl | rfl | rfl <;> simp [modeWithin, cells, rowGroups]
      rw [hmodes, List.contains_cons, List.contains_iff_mem.2 htable, Bool.or_true]
    · have hother : (tag :: names).contains "table" = names.contains "table" := by
        have htable : ("table" == tag) = false := by
          rw [beq_eq_false_iff_ne]
          rintro rfl
          exact hmode (by decide)
        rw [List.contains_cons, htable, Bool.false_or]
      rw [ground_cons_eq hopens hmode] at hflow
      rw [modeWithin_cons hmode, hother, ih hflow]

end NestInPlace

end MarkupOutline.Html.Construction
