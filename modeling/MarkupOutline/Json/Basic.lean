import MarkupOutline.Entries
import MarkupOutline.Value.Scalar

/-!
# JSON values

A JSON value, with integers told apart from decimals and with the entries of an object in the order
in which their keys came first.
-/

namespace MarkupOutline

/-- A JSON value. The keys of an object are distinct. -/
inductive Json where
  | scalar (s : Scalar)
  | array (items : List Json)
  | object (entries : List (String × Json))
  deriving Repr, Inhabited

namespace Json

/-- The absent value. -/
def null : Json := scalar .null

/-- A text. -/
def str (s : String) : Json := scalar (.str s)

/-- A truth value. -/
def bool (b : Bool) : Json := scalar (.bool b)

/-- An integer. -/
def int (n : Int) : Json := scalar (.int n)

/-- The value of an object at a key. -/
def get? (key : String) : Json → Option Json
  | object entries => Entries.get? key entries
  | _ => none

end Json

end MarkupOutline
