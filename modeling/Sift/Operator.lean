/-!
# Search operators

A filter field may name the operator it searches with. Left unnamed it is `auto`, and the operator
is inferred from the two types that meet. Every operator has one canonical name; `equal` and
`not_equal` are accepted as longer spellings of `eq` and `ne`.
-/

namespace Sift

inductive Operator where
  | auto
  | equal
  | notEqual
  | greaterThan
  | greaterOrEqual
  | lessThan
  | lessOrEqual
  | like
  | contains
  | startsWith
  | endsWith
  | isIn
  | isNull
  | isNotNull
  deriving DecidableEq, Repr, Inhabited

namespace Operator

/-- Every operator, in the order in which they are listed to users. -/
def all : List Operator :=
  [.auto, .equal, .notEqual, .greaterThan, .greaterOrEqual, .lessThan, .lessOrEqual, .like,
    .contains, .startsWith, .endsWith, .isIn, .isNull, .isNotNull]

/-- The canonical name. -/
def name : Operator → String
  | .auto => "auto"
  | .equal => "eq"
  | .notEqual => "ne"
  | .greaterThan => "gt"
  | .greaterOrEqual => "gte"
  | .lessThan => "lt"
  | .lessOrEqual => "lte"
  | .like => "like"
  | .contains => "contains"
  | .startsWith => "starts_with"
  | .endsWith => "ends_with"
  | .isIn => "in"
  | .isNull => "is_null"
  | .isNotNull => "is_not_null"

/-- The operator a name stands for: its canonical name or one of the two longer spellings. Names are
    compared exactly, so case and blanks matter. -/
def ofName? (s : String) : Option Operator :=
  if s = "equal" then some .equal
  else if s = "not_equal" then some .notEqual
  else all.find? (·.name == s)

/-- The message for a name that stands for no operator. -/
def unknownMessage (s : String) : String :=
  "unknown operator '" ++ s ++ "'"

def isOrdering : Operator → Bool
  | .greaterThan | .greaterOrEqual | .lessThan | .lessOrEqual => true
  | _ => false

def isTextual : Operator → Bool
  | .like | .contains | .startsWith | .endsWith => true
  | _ => false

def isNullCheck : Operator → Bool
  | .isNull | .isNotNull => true
  | _ => false

theorem mem_all (op : Operator) : op ∈ all := by
  cases op <;> decide

/-- A canonical name reads back. -/
theorem ofName?_name (op : Operator) : ofName? op.name = some op := by
  cases op <;> decide

end Operator

end Sift
