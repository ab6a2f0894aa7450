import Sift.Text.Lowercase
import Sift.Text.Search
import Sift.Value

/-!
# Comparisons

The comparisons a compiled criterion can make between the value of a model field and the value of a
filter field. All of them are total: where the two values are not of a class the comparison knows,
it does not hold. Only equality can hold of an absent value.
-/

namespace Sift

inductive Comparison where
  | equal
  | greater
  | greaterOrEqual
  | less
  | lessOrEqual
  | contains
  | containsIgnoreCase
  | startsWith
  | endsWith
  /-- The filter value is a list that has the model value. -/
  | anyOf
  /-- The model value is a list that has the filter value. -/
  | includes
  /-- Both values are lists, and they have an element in common. -/
  | overlaps
  deriving DecidableEq, Repr, Inhabited

namespace Comparison

/-- Every comparison, in the order in which they are listed to users. -/
def all : List Comparison :=
  [.equal, .greater, .greaterOrEqual, .less, .lessOrEqual, .contains, .containsIgnoreCase,
    .startsWith, .endsWith, .anyOf, .includes, .overlaps]

/-- The comparison as it is written between its two sides. -/
def symbol : Comparison → String
  | .equal => "=="
  | .greater => ">"
  | .greaterOrEqual => ">="
  | .less => "<"
  | .lessOrEqual => "<="
  | .contains => "contains"
  | .containsIgnoreCase => "icontains"
  | .startsWith => "starts with"
  | .endsWith => "ends with"
  | .anyOf => "in"
  | .includes => "includes"
  | .overlaps => "overlaps"

/-- A test of two texts, on values. -/
def onText (test : String → String → Bool) : Value → Value → Bool
  | .text m, .text f => test m f
  | _, _ => false

/-- Whether a list has an element that is the same as a value. -/
def hasSame (items : List Value) (v : Value) : Bool :=
  items.any fun item => item.sameAs v

/-- Whether the comparison holds of a model value and a filter value, in this order. -/
def eval (c : Comparison) (model filter : Value) : Bool :=
  match c with
  | .equal => model.sameAs filter
  | .greater => model.compare? filter == some .gt
  | .greaterOrEqual => (model.compare? filter).any Ordering.isGE
  | .less => model.compare? filter == some .lt
  | .lessOrEqual => (model.compare? filter).any Ordering.isLE
  | .contains => onText Text.contains model filter
  | .containsIgnoreCase =>
    onText (fun m f => Text.contains (Text.lower m) (Text.lower f)) model filter
  | .startsWith => onText Text.startsWith model filter
  | .endsWith => onText Text.endsWith model filter
  | .anyOf => filter.list?.any fun items => hasSame items model
  | .includes => model.list?.any fun items => hasSame items filter
  | .overlaps =>
    match model, filter with
    | .list left, .list right => left.any fun l => right.any fun r => l.sameAs r
    | _, _ => false

end Comparison

end Sift
