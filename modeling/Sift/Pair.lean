import Sift.TypeName

/-!
# Pairs of types

A specification belongs to a pair of record types: the model that is searched and the filter that
says what to look for. Pairs are identified by the full names of both types and shown by their
short names.
-/

namespace Sift

structure Pair where
  model : TypeName
  filter : TypeName
  deriving DecidableEq, Repr, Inhabited

/-- The pair as messages show it. -/
def Pair.display (p : Pair) : String :=
  "(" ++ p.model.short ++ ", " ++ p.filter.short ++ ")"

end Sift
