import MarkupOutline.Entries
import MarkupOutline.Html.Token.Basic

/-!
# Foreign content

Vector graphics and mathematics inside HTML. Their names are case-sensitive although tags are not,
so the names read from tags are put back into their proper case, and a few attributes get a
namespace.
-/

namespace MarkupOutline.Html

/-- The vocabulary an element belongs to. -/
inductive Space where
  | html
  | svg
  | math
  deriving DecidableEq, Repr

/-- The name of an element with its vocabulary in front, which HTML leaves out. -/
def Space.qualify : Space → String → String
  | html, name => name
  | svg, name => "\x7bsvg\x7d" ++ name
  | math, name => "\x7bmath\x7d" ++ name

/-- The proper names of graphic elements, by their names in lower case. -/
def svgTagNames : List (String × String) :=
  [("altglyph", "altGlyph"), ("altglyphdef", "altGlyphDef"), ("altglyphitem", "altGlyphItem"),
   ("animatecolor", "animateColor"), ("animatemotion", "animateMotion"),
   ("animatetransform", "animateTransform"), ("clippath", "clipPath"), ("feblend", "feBlend"),
   ("fecolormatrix", "feColorMatrix"), ("fecomponenttransfer", "feComponentTransfer"),
   ("fecomposite", "feComposite"), ("feconvolvematrix", "feConvolveMatrix"),
   ("fediffuselighting", "feDiffuseLighting"), ("fedisplacementmap", "feDisplacementMap"),
   ("fedistantlight", "feDistantLight"), ("fedropshadow", "feDropShadow"), ("feflood", "feFlood"),
   ("fefunca", "feFuncA"), ("fefuncb", "feFuncB"), ("fefuncg", "feFuncG"), ("fefuncr", "feFuncR"),
   ("fegaussianblur", "feGaussianBlur"), ("feimage", "feImage"), ("femerge", "feMerge"),
   ("femergenode", "feMergeNode"), ("femorphology", "feMorphology"), ("feoffset", "feOffset"),
   ("fepointlight", "fePointLight"), ("fespecularlighting", "feSpecularLighting"),
   ("fespotlight", "feSpotLight"), ("fetile", "feTile"), ("feturbulence", "feTurbulence"),
   ("foreignobject", "foreignObject"), ("glyphref", "glyphRef"),
   ("lineargradient", "linearGradient"), ("radialgradient", "radialGradient"),
   ("textpath", "textPath")]

/-- The proper names of attributes of graphic elements that are not in lower case. -/
def svgAttributeNames : List String :=
  ["attributeName", "attributeType", "baseFrequency", "baseProfile", "calcMode", "clipPathUnits",
   "contentScriptType", "contentStyleType", "diffuseConstant", "edgeMode",
   "externalResourcesRequired", "filterRes", "filterUnits", "glyphRef", "gradientTransform",
   "gradientUnits", "kernelMatrix", "kernelUnitLength", "keyPoints", "keySplines", "keyTimes",
   "lengthAdjust", "limitingConeAngle", "markerHeight", "markerUnits", "markerWidth",
   "maskContentUnits", "maskUnits", "numOctaves", "pathLength", "patternContentUnits",
   "patternTransform", "patternUnits", "pointsAtX", "pointsAtY", "pointsAtZ", "preserveAlpha",
   "preserveAspectRatio", "primitiveUnits", "refX", "refY", "repeatCount", "repeatDur",
   "requiredExtensions", "requiredFeatures", "specularConstant", "specularExponent",
   "spreadMethod", "startOffset", "stdDeviation", "stitchTiles", "surfaceScale",
   "systemLanguage", "tableValues", "targetX", "targetY", "textLength", "viewBox", "viewTarget",
   "xChannelSelector", "yChannelSelector", "zoomAndPan"]

/-- A namespace and a local name, in the notation of tailed trees. -/
def inNamespace (space name : String) : String := "\x7b" ++ space ++ "\x7d" ++ name

/-- The attributes that belong to a namespace, with their names in it. -/
def namespacedAttributes : List (String × String) :=
  let xlink := "http://www.w3.org/1999/xlink"
  let xml := "http://www.w3.org/XML/1998/namespace"
  let xmlns := "http://www.w3.org/2000/xmlns/"
  [("xlink:actuate", inNamespace xlink "actuate"), ("xlink:arcrole", inNamespace xlink "arcrole"),
   ("xlink:href", inNamespace xlink "href"), ("xlink:role", inNamespace xlink "role"),
   ("xlink:show", inNamespace xlink "show"), ("xlink:title", inNamespace xlink "title"),
   ("xlink:type", inNamespace xlink "type"), ("xml:base", inNamespace xml "base"),
   ("xml:lang", inNamespace xml "lang"), ("xml:space", inNamespace xml "space"),
   ("xmlns", inNamespace xmlns "xmlns"), ("xmlns:xlink", inNamespace xmlns "xlink")]

/-- The proper name of an element. -/
def Space.tagName (space : Space) (name : String) : String :=
  match space with
  | .svg => (svgTagNames.lookup name).getD name
  | _ => name

/-- The proper name of an attribute, before namespaces. -/
def Space.attributeName (space : Space) (name : String) : String :=
  match space with
  | .svg => (svgAttributeNames.find? fun proper => proper.toLower = name).getD name
  | .math => if name = "definitionurl" then "definitionURL" else name
  | .html => name

/-- The attributes of an element of foreign content. Where two names become one, the later value is
kept in the earlier place. -/
def Space.attributes (space : Space) (given : List (String × String)) : List (String × String) :=
  Entries.ofList <| given.map fun (name, value) =>
    let name := space.attributeName name
    ((namespacedAttributes.lookup name).getD name, value)

/-- The start tags that end foreign content. -/
def breakoutTags : List String :=
  ["b", "big", "blockquote", "body", "br", "center", "code", "dd", "div", "dl", "dt", "em", "embed",
   "h1", "h2", "h3", "h4", "h5", "h6", "head", "hr", "i", "img", "li", "listing", "menu", "meta",
   "nobr", "ol", "p", "pre", "ruby", "s", "small", "span", "strong", "strike", "sub", "sup",
   "table", "tt", "u", "ul", "var"]

/-- Whether a start tag ends foreign content. A font tag does if it says anything about the
font. -/
def Tag.breaksOut (t : Tag) : Bool :=
  breakoutTags.contains t.name ||
    (t.name = "font" && t.attributes.any fun (name, _) => ["color", "face", "size"].contains name)

end MarkupOutline.Html
