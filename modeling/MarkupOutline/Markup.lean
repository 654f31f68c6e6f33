import MarkupOutline.Html.Construction.Dispatch
import MarkupOutline.Tailed.Conversion

/-!
# Reading markup

The fragment that a piece of markup stands for: its tree by the rules of HTML, turned into nodes.
-/

namespace MarkupOutline

/-- The fragment that a piece of markup stands for. The empty text is the empty fragment. -/
def Fragment.ofMarkup (markup : String) : Except ConversionFault Fragment :=
  if markup.isEmpty then .ok {} else (Html.parseTree markup).content.map fun nodes => ⟨nodes⟩

end MarkupOutline
