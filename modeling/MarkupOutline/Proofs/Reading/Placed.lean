import MarkupOutline.Html.Construction.Tables
import MarkupOutline.Html.Token.Scanning
import MarkupOutline.Proofs.Render.Markup

/-!
# Trees that are rebuilt in place

The rules of HTML do not rebuild every tree from its markup: a paragraph ends at the next block, a
link at the next link, and content directly in a table moves in front of it. Here is a class of
trees that stay as they are. It is decided from the names of the elements around a node, innermost
first, with the fragment itself as the element `html` around everything. Its elements are those of
flow content, tables with their parts, selection lists with their options, and the elements whose
content is text without markup; foreign content is left out.
-/

namespace MarkupOutline

namespace Html

/-! ## Lists of names -/

/-- A list contains no other names than those in it. -/
theorem contains_eq_false_iff {names : List String} {name : String} :
    names.contains name = false ↔ name ∉ names := by
  rw [Bool.eq_false_iff, ne_eq, List.contains_iff_mem]

/-- A name that is not in a list is in no part of it. -/
theorem contains_eq_false_of_subset {outside : List String} {name : String} (h : name ∉ outside)
    (names : List String) (hnames : names ⊆ outside) : names.contains name = false :=
  contains_eq_false_iff.2 fun hmem => h (hnames hmem)

/-- A name that is in a list is in none without names of that list. -/
theorem contains_eq_false_of_mem {inside : List String} {name : String} (h : name ∈ inside)
    (names : List String) (hnames : ∀ n ∈ inside, n ∉ names) : names.contains name = false :=
  contains_eq_false_iff.2 (hnames name h)

/-! ## Searches through names -/

/-- Whether one of the wanted names comes first among the wanted ones and those that stop a
search. -/
def isWithin (stops : String → Bool) (wanted names : List String) : Bool :=
  (names.find? fun name => wanted.contains name || stops name).any wanted.contains

/-- The names that stop every ordinary search. -/
def stopsScope (name : String) : Bool :=
  ["applet", "caption", "html", "table", "td", "th", "marquee", "object"].contains name

/-- The names that stop the search for a list item. -/
def stopsItem (name : String) : Bool :=
  Frame.specialNames.contains name && ! ["address", "div", "p"].contains name

/-- Whether a block ends a paragraph. -/
def endsParagraph (names : List String) : Bool :=
  isWithin (fun name => stopsScope name || name = "button") ["p"] names

/-! ## What stands inside of an element -/

/-- What can stand directly inside of an element. -/
inductive Ground where
  /-- Flow content. -/
  | flow
  /-- The parts of a table. -/
  | table
  /-- Columns. -/
  | columns
  /-- Rows. -/
  | rows
  /-- Cells. -/
  | row
  /-- The options of a selection list. -/
  | options
  deriving DecidableEq, Repr

/-- Whether text stays in its place. In the parts of a table only white space does. -/
def Ground.holdsText (g : Ground) : Bool := g = .flow || g = .options

namespace Construction

/-- What can stand inside of the innermost of the elements with the given names. An option holds
other things inside of a selection list than outside of one. -/
def ground : List String → Ground
  | [] => .flow
  | name :: outer =>
    if name = "table" then .table
    else if name = "colgroup" then .columns
    else if rowGroups.contains name then .rows
    else if name = "tr" then .row
    else if name = "select" then .options
    else if (name = "optgroup" || name = "option") && ground outer = .options then .options
    else .flow

/-! ## Elements in place -/

/-- The elements that never have content in flow content. -/
def emptyTags : List String := besideText ++ withinText ++ ["hr"]

/-- The elements that are left out of flow content: those that never have content, those that mean
nothing there, and those with rules of their own for what is inside. -/
def unplacedTags : List String :=
  ["image", "listing", "plaintext", "title", "textarea", "xmp", "script", "math", "svg"] ++
    ignoredTags ++ rawTextTags ++ emptyTags

/-- The elements whose content is text without markup, but with references. -/
def escapableTags : List String := ["title", "textarea"]

/-- The elements whose content is text without markup. -/
def textTags : List String := escapableTags ++ ["xmp", "script"] ++ rawTextTags

/-- The elements that formatting does not reach into. -/
def sealingTags : List String := "caption" :: cells ++ sealedTags

/-- Whether the start tag of an element finishes none of the elements around it. -/
def endsNothing (names : List String) (tag : String) : Bool :=
  if blockTags.contains tag then !endsParagraph names
  else if headingTags.contains tag then
    !endsParagraph names && !names.head?.any headingTags.contains
  else if tag = "pre" then !endsParagraph names
  else if tag = "form" then !endsParagraph names && !names.contains "form"
  else if tag = "li" then !endsParagraph names && !isWithin stopsItem ["li"] names
  else if descriptionTags.contains tag then
    !endsParagraph names && !isWithin stopsItem descriptionTags names
  else if tag = "button" then !isWithin stopsScope ["button"] names
  else if tag = "a" then !isWithin sealingTags.contains ["a"] names
  else if tag = "nobr" then !isWithin stopsScope ["nobr"] names
  else if tag = "table" then !endsParagraph names
  else if tag = "optgroup" || tag = "option" then names.head? != some "option"
  else if tag = "rp" || tag = "rt" then
    !(isWithin stopsScope ["ruby"] names && names.head?.any impliedEnds.contains)
  else true

/-- Whether an element with content is opened right where its start tag stands. -/
def opensInPlace (names : List String) (tag : String) : Bool :=
  match ground names with
  | .flow => !unplacedTags.contains tag && endsNothing names tag
  | .table => ("caption" :: "colgroup" :: rowGroups).contains tag
  | .columns => false
  | .rows => tag = "tr"
  | .row => cells.contains tag
  -- An option is no longer open where the next one or a group begins, and neither is a group.
  | .options =>
    (tag = "option" && names.head? != some "option") ||
      (tag = "optgroup" && names.head? = some "select")

/-- Whether an element that never has content stands where its start tag stands, and is not doubled
by an end tag. -/
def standsInPlace (o : Options) (names : List String) (tag : String) : Bool :=
  match ground names with
  | .flow =>
    emptyTags.contains tag && !(tag = "hr" && endsParagraph names) &&
      !(tag = "br" && o.voidElements == .closingTag)
  | .columns => tag = "col"
  | _ => false

/-- A line break does not stand where it would be written with an end tag. -/
theorem closingTag_ne_of_standsInPlace {o : Options} {names : List String}
    (h : standsInPlace o names "br" = true) : (o.voidElements == .closingTag) = false := by
  unfold standsInPlace at h
  cases hground : ground names with
  | flow =>
    rw [hground, Bool.and_eq_true, Bool.not_eq_true', decide_eq_true rfl, Bool.true_and] at h
    exact h.2
  | columns =>
    rw [hground, decide_eq_true_eq] at h
    exact absurd h (by decide)
  | table | rows | row | options =>
    rw [hground] at h
    cases h

/-- The names of elements that have been opened in place, one inside of the other. -/
inductive NestInPlace : List String → Prop
  | root : NestInPlace ["html"]
  | opened {names : List String} {tag : String} : NestInPlace names →
      opensInPlace names tag = true → NestInPlace (tag :: names)

/-- An element that opens in place is none of those that are left out of flow content, or a part of
a table. -/
theorem unplaced_of_opensInPlace {names : List String} {tag : String}
    (h : opensInPlace names tag = true) :
    unplacedTags.contains tag = false ∨
      tag ∈ "caption" :: "colgroup" :: "tr" :: (rowGroups ++ cells) := by
  unfold opensInPlace at h
  cases hground : ground names with
  | flow =>
    rw [hground, Bool.and_eq_true, Bool.not_eq_true'] at h
    exact .inl h.1
  | table =>
    rw [hground] at h
    have hparts : ∀ t ∈ "caption" :: "colgroup" :: rowGroups,
        t ∈ "caption" :: "colgroup" :: "tr" :: (rowGroups ++ cells) := by decide
    exact .inr (hparts tag (List.contains_iff_mem.1 h))
  | columns =>
    rw [hground] at h
    cases h
  | rows =>
    rw [hground, decide_eq_true_eq] at h
    subst h
    exact .inr (by decide)
  | row =>
    rw [hground] at h
    have hparts : ∀ t ∈ cells, t ∈ "caption" :: "colgroup" :: "tr" :: (rowGroups ++ cells) := by
      decide
    exact .inr (hparts tag (List.contains_iff_mem.1 h))
  | options =>
    rw [hground, Bool.or_eq_true, Bool.and_eq_true, Bool.and_eq_true, decide_eq_true_eq,
      decide_eq_true_eq] at h
    left
    rcases h with ⟨rfl, -⟩ | ⟨rfl, -⟩ <;> decide

/-- An element that opens in place is in no list of other elements. -/
theorem not_mem_of_opensInPlace {names : List String} {tag : String}
    (h : opensInPlace names tag = true) (tags : List String)
    (htags : ∀ t ∈ tags, t ∈ unplacedTags ∧
      t ∉ "caption" :: "colgroup" :: "tr" :: (rowGroups ++ cells)) : tag ∉ tags := by
  intro hmem
  obtain ⟨hout, hpart⟩ := htags tag hmem
  rcases unplaced_of_opensInPlace h with hplaced | hplaced
  · exact contains_eq_false_iff.1 hplaced hout
  · exact hpart hplaced

end Construction

open Construction

/-! ## Texts read as they are written -/

/-- Whether a character is neither replaced nor left out when it is read. -/
def isSteady (c : Char) : Bool := c.toNat ≠ 0 && c ≠ '\r'

/-- Whether a character of a text inside of the named elements is read as it is written and stays
where it is. -/
def staysIn (names : List String) (c : Char) : Bool :=
  isSteady c && ((ground names).holdsText || isTableSpace c)

/-- Whether a text is the name of an element as tags have it. -/
def isTagName (name : String) : Bool :=
  name.toList.head?.any Char.isAlpha &&
    name.toList.all (fun c => Token.inTagName c && isSteady c && c ≠ '\x7d') &&
    Token.nameOf name.toList = name

/-- Whether an attribute has a name as tags have it, and a value that stands between double
quotes. -/
def isSteadyAttribute (a : String × String) : Bool :=
  !a.1.isEmpty && a.1.toList.all (fun c => Token.inAttributeName c && isSteady c) &&
    a.1.toList.head? != some '\x7b' && Token.nameOf a.1.toList = a.1 &&
    a.2.toList.all (fun c => c ≠ '"' && c ≠ '\r')

/-- An attribute as it is read back: references in its value are replaced. -/
def rereadAttribute (a : String × String) : String × String := (a.1, Token.valueOf a.2.toList)

/-- Whether a text can be the data of a comment: no closing delimiter stands inside. -/
def isCommentData (data : List Char) : Bool :=
  data.all isSteady && !decide ("-->".toList <:+: data) && !decide ("--!>".toList <:+: data)

end Html

/-! ## Trees in place -/

open Html Html.Construction

/-- Whether a node is a text without visible characters. -/
def Node.isBlankText : Node → Bool
  | .text value => Text.allBlank value.toList
  | _ => false

/-- Whether a node can be the content of an element without markup: a text, with no character that
is escaped unless references are read. -/
def Node.isPlainText (tag : String) : Node → Bool
  | .text value => escapableTags.contains tag || Text.escape value.toList = value.toList
  | _ => false

/-- Whether an element whose content is text without markup is rebuilt right where its tags stand.
The line feed behind the tag of a text area is left out, so white space alone may be lost there. -/
def holdsTextInPlace (names : List String) (tag : String) (children : List Node) : Bool :=
  decide (ground names = .flow) && textTags.contains tag &&
    !(tag = "xmp" && endsParagraph names) && children.all (Node.isPlainText tag) &&
    !(tag = "textarea" && !children.isEmpty && children.all Node.isBlankText)

/-- Whether an element with content is rebuilt right where its tags stand. -/
def holdsInPlace (names : List String) (tag : String) (children : List Node) : Bool :=
  opensInPlace names tag || holdsTextInPlace names tag children

/-- The elements with content that are rebuilt in place are not void. -/
theorem void_of_holdsInPlace {names : List String} {tag : String} {children : List Node}
    (h : holdsInPlace names tag children = true) : (Kind.ofName tag).void = false := by
  rw [Bool.eq_false_iff, ne_eq, Kind.void_ofName]
  rw [holdsInPlace, Bool.or_eq_true] at h
  rcases h with hopens | htext
  · exact not_mem_of_opensInPlace hopens voidNames (by decide)
  · simp only [holdsTextInPlace, Bool.and_eq_true, List.contains_iff_mem] at htext
    exact (by decide : ∀ name ∈ textTags, name ∉ voidNames) tag htext.1.1.1.2

/-- A text area in place has no content that is all white space. -/
theorem isBlankText_of_holdsInPlace {names : List String} {tag : String} {children : List Node}
    (h : holdsInPlace names tag children = true) (htag : tag = "textarea")
    (hchildren : children ≠ []) : children.all Node.isBlankText = false := by
  rw [holdsInPlace, Bool.or_eq_true] at h
  rcases h with hopens | htext
  · have hother := not_mem_of_opensInPlace hopens ["textarea"] (by decide)
    exact absurd (List.mem_singleton.2 htag) hother
  · rw [holdsTextInPlace, Bool.and_eq_true, Bool.not_eq_true', htag, decide_eq_true rfl,
      Bool.true_and, List.isEmpty_eq_false_iff.2 hchildren, Bool.not_false, Bool.true_and] at htext
    exact htext.2

mutual

/-- Whether a tree is rebuilt as it stands inside elements with the given names. -/
def Node.isPlaced (o : Options) (names : List String) : Node → Bool
  | .text value => value.toList.all (staysIn names)
  | .comment data => isCommentData data.toList
  | .element tag attributes children =>
    isTagName tag && attributes.all isSteadyAttribute &&
      decide (Token.firstOfEach attributes = attributes) &&
      ((standsInPlace o names tag && children.isEmpty) ||
        (holdsInPlace names tag children && !(Kind.ofName tag).shape &&
          !Layout.closesItself o (.ofName tag) (!children.isEmpty) &&
          arePlaced o (tag :: names) children))

/-- Whether trees side by side are rebuilt as they stand, no two of them being texts next to each
other. -/
def arePlaced (o : Options) (names : List String) : List Node → Bool
  | [] => true
  | node :: more =>
    node.isPlaced o names && !(node.isText && (headText more).isSome) && arePlaced o names more

end

/-- Whether a fragment is rebuilt as it stands. -/
def Fragment.isPlaced (o : Options) (f : Fragment) : Bool := arePlaced o ["html"] f.children

end MarkupOutline
