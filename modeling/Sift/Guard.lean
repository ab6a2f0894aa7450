import Sift.FieldType
import Sift.Text.Blank
import Sift.Value

/-!
# Guards

A search form hands over a filter with most fields untouched. Under the emptiness policy a
criterion applies only when the value of its filter field passes a guard, and the declared type of
the field chooses the guard: text has to be more than blanks, a list has to have elements, a number
has to be positive, and so on. The choice looks through one `optional`, and only at text and lists.
-/

namespace Sift

/-- A test that tells a filter value that was set from one that was left empty. -/
inductive Guard where
  | text
  | collection
  | present
  | positive
  | notBlank
  | structural
  deriving DecidableEq, Repr, Inhabited

namespace Guard

def all : List Guard := [.text, .collection, .present, .positive, .notBlank, .structural]

/-- Whether the guard lets a criterion with this filter value apply. A value of a class the guard
    does not know is not let through, except by the two guards that know every class. -/
def admits : Guard → Value → Bool
  | .text, v => v.text?.any fun s => !Text.isBlank s
  | .collection, v => v.list?.any fun items => !items.isEmpty
  | .present, v => !v.isAbsent
  | .positive, v => v.number?.any Number.isPositive
  | .notBlank, v => v.timestamp?.any fun t => !t.isBlank
  | .structural, v => !v.isDefault

/-- The guard as a condition in a printed plan. -/
def describe : Guard → String
  | .text => "is not blank"
  | .collection => "has elements"
  | .present => "is present"
  | .positive => "is positive"
  | .notBlank => "is set"
  | .structural => "is not default"

/-- The guard of a filter field, by its declared type. -/
def ofType : FieldType → Guard
  | .text => .text
  | .list _ => .collection
  | .optional .text => .text
  | .optional (.list _) => .collection
  | .optional _ => .present
  | .number _ => .positive
  | .timestamp => .notBlank
  | .bool | .enum _ | .record _ => .structural

end Guard

end Sift
