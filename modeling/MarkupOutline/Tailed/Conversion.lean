import MarkupOutline.Node
import MarkupOutline.Tailed.Basic

/-!
# Markup trees from tailed trees

Texts become nodes of their own, in document order, empty ones left out. Processing instructions
are dropped, the text behind them is not, and whatever is inside of a comment or of an instruction
is not looked at. Element names lose their namespace, and attribute names
have it replaced by its customary form. Only one thing can go wrong: an attribute name that opens a
namespace and does not close it.
-/

namespace MarkupOutline

/-- The customary short forms of the namespaces of attributes. -/
def namespacePrefixes : List (String × String) :=
  [("http://www.w3.org/1999/xlink", "xlink"),
   ("http://www.w3.org/XML/1998/namespace", "xml"),
   ("http://www.w3.org/2000/xmlns/", "xmlns")]

/-- The two parts of a text around its first closing brace, none if it has none. -/
def splitAtBrace (s : List Char) : Option (List Char × List Char) :=
  match s.span (· ≠ '\x7d') with
  | (_, []) => none
  | (before, _ :: behind) => some (before, behind)

/-- The name of an element without what stands up to its first closing brace. -/
def localName (name : String) : String :=
  match splitAtBrace name.toList with
  | some (_, behind) => String.ofList behind
  | none => name

/-- Why a tailed tree has no markup tree. -/
inductive ConversionFault where
  /-- An attribute name begins with an opening brace and has no closing one. -/
  | openNamespace (name : String)
  deriving DecidableEq, Repr

/-- The name of an attribute in a markup tree. A namespace with a customary form is replaced by it,
unless it names itself; any other namespace is left out. -/
def attributeName (name : String) : Except ConversionFault String :=
  match name.toList with
  | '\x7b' :: rest =>
    match splitAtBrace rest with
    | none => .error (.openNamespace name)
    | some (space, behind) =>
      let base := String.ofList behind
      match namespacePrefixes.lookup (String.ofList space) with
      | none => .ok base
      | some short => if short = base then .ok base else .ok (short ++ ":" ++ base)
  | _ => .ok name

/-- The text node of a text, none for the empty text. -/
def textNodes (s : String) : List Node := if s.isEmpty then [] else [.text s]

namespace Tailed

mutual

/-- The node of a tree without its tail, none for a processing instruction. -/
def toNode? : Tailed → Except ConversionFault (Option Node)
  | element name attributes text children _ => do
    let attributes ← attributes.mapM fun (name, value) => (attributeName name).map (·, value)
    let nodes ← toNodes children
    pure (some (.element (localName name) attributes (textNodes text ++ nodes)))
  | aside .comment text _ _ => pure (some (.comment text))
  | aside .instruction _ _ _ => pure none

/-- The nodes of trees side by side, each with its tail behind it. -/
def toNodes : List Tailed → Except ConversionFault (List Node)
  | [] => pure []
  | tree :: more => do
    let node ← toNode? tree
    let rest ← toNodes more
    pure (node.toList ++ textNodes tree.tail ++ rest)

end

/-- The text behind a tree is no part of its node. -/
theorem toNode?_addTail (more : String) (tree : Tailed) :
    (tree.addTail more).toNode? = tree.toNode? := by
  cases tree with
  | element => rfl
  | aside kind => cases kind <;> rfl

/-- The nodes that a tree contains: those of its text and of its children. -/
def content (root : Tailed) : Except ConversionFault (List Node) :=
  (toNodes root.children).map (textNodes root.text ++ ·)

end Tailed

end MarkupOutline
