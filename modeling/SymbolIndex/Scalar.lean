import SymbolIndex.Text.Quoted

/-!
# Scalars

The values that cells are shown with: nothing, an integer or a text.
-/

namespace SymbolIndex

/-- Nothing, an integer or a text. -/
inductive Scalar where
  | none
  | int (n : Int)
  | text (t : Text)
  deriving DecidableEq

/-- The written form of a scalar. -/
def Scalar.toText : Scalar → Text
  | .none   => "None".toList
  | .int n  => Text.ofInt n
  | .text t => t.quoted

end SymbolIndex
