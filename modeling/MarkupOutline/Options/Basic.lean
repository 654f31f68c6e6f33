import MarkupOutline.Value.Basic

/-!
# Formatting options

The six settings of the formatter and the values they can take. An `Options` is always usable as it
stands: whatever a caller supplied has been replaced by a value of the right type beforehand.
-/

namespace MarkupOutline

/-- The tags whose text keeps its white space. -/
inductive PreservedTags where
  /-- Every tag, or none. -/
  | uniform (preserved : Bool)
  /-- The tags listed. -/
  | only (tags : List String)
  deriving DecidableEq, Repr

/-- Whether a tag is among those whose text keeps its white space. -/
def PreservedTags.contains : PreservedTags → String → Bool
  | uniform preserved, _ => preserved
  | only tags, tag => tags.contains tag

/-- How a tree is laid out. -/
structure Options where
  /-- An attribute without a value is written with an empty value rather than as its bare name. -/
  emptyAttributes : Bool := true
  /-- The termination of void elements and shapes. -/
  voidElements : VoidStyle := .xhtml
  /-- An element without children closes itself, unless it is void or holds raw text. -/
  selfClosingTag : Bool := false
  /-- The largest number of attributes that stay on the line of their tag. -/
  attributesPerLine : Nat := 1
  /-- Text content is escaped. -/
  escapeInnerText : Bool := true
  /-- The tags directly inside of which text is written verbatim. -/
  tagsWithWhitespacePreserved : PreservedTags := .only ["a", "pre"]
  deriving DecidableEq, Repr

namespace Options

/-- The options nobody has changed. -/
def default : Options := {}

/-- Whether text directly inside a tag keeps its white space. Text at the top level counts as being
inside the empty tag. -/
def preserves (o : Options) (tag : String) : Bool := o.tagsWithWhitespacePreserved.contains tag

end Options

instance : Inhabited Options := ⟨Options.default⟩

/-- One of the six settings. -/
inductive Setting where
  | emptyAttributes
  | voidElements
  | selfClosingTag
  | attributesPerLine
  | escapeInnerText
  | tagsWithWhitespacePreserved
  deriving DecidableEq, Repr

namespace Setting

/-- The settings, in the order in which they are declared and checked. -/
def all : List Setting :=
  [emptyAttributes, voidElements, selfClosingTag, attributesPerLine, escapeInnerText,
   tagsWithWhitespacePreserved]

/-- The name of a setting. -/
def name : Setting → String
  | emptyAttributes => "empty_attributes"
  | voidElements => "void_elements"
  | selfClosingTag => "self_closing_tag"
  | attributesPerLine => "attributes_per_line"
  | escapeInnerText => "escape_inner_text"
  | tagsWithWhitespacePreserved => "tags_with_whitespace_preserved"

/-- The second spelling under which users write a setting. -/
def camelName : Setting → String
  | emptyAttributes => "emptyAttributes"
  | voidElements => "voidElements"
  | selfClosingTag => "selfClosingTag"
  | attributesPerLine => "attributesPerLine"
  | escapeInnerText => "escapeInnerText"
  | tagsWithWhitespacePreserved => "tagsWithWhitespacePreserved"

/-- The setting with a given name. -/
def ofName? (key : String) : Option Setting := all.find? (·.name = key)

/-- The setting that a key selects, in either spelling. -/
def ofKey? (key : String) : Option Setting := all.find? fun s => s.camelName = key || s.name = key

/-- Every setting is listed. -/
theorem mem_all (s : Setting) : s ∈ all := by cases s <;> simp [all]

/-- A setting is found under its name. -/
theorem ofKey?_name (s : Setting) : ofKey? s.name = some s := by cases s <;> decide

/-- A setting is found under its second spelling. -/
theorem ofKey?_camelName (s : Setting) : ofKey? s.camelName = some s := by cases s <;> decide

end Setting

end MarkupOutline
