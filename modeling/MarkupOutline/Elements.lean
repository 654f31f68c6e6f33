/-!
# Classes of elements

Three fixed classes of element names decide how an element ends: void elements never have an end
tag of their own, graphic shapes are customarily written as one self-closing tag, and two elements
always keep an explicit end tag.
-/

namespace MarkupOutline

/-- The elements that cannot have content. -/
def voidNames : List String :=
  ["area", "base", "br", "col", "embed", "hr", "img", "input", "link", "meta", "param", "source",
   "track", "wbr"]

/-- The vector graphic shapes. -/
def shapeNames : List String :=
  ["circle", "ellipse", "line", "path", "polygon", "polyline", "rect", "stop", "use"]

/-- The elements whose content is text without tags. -/
def rawTextNames : List String := ["textarea", "title"]

/-- What the name of an element says about the way it ends. -/
structure Kind where
  void : Bool
  shape : Bool
  rawText : Bool
  deriving DecidableEq, Repr

namespace Kind

/-- An element that belongs to none of the classes. -/
def plain : Kind := ⟨false, false, false⟩

/-- The class of a name. Names are compared exactly, letter case included. -/
def ofName (name : String) : Kind :=
  ⟨voidNames.contains name, shapeNames.contains name, rawTextNames.contains name⟩

/-- A name is void exactly when it is in the list of void elements. -/
theorem void_ofName (name : String) : (ofName name).void = true ↔ name ∈ voidNames := by
  simp [ofName]

/-- A name is a shape exactly when it is in the list of shapes. -/
theorem shape_ofName (name : String) : (ofName name).shape = true ↔ name ∈ shapeNames := by
  simp [ofName]

end Kind

end MarkupOutline
