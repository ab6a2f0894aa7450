import Sift.Criterion
import Sift.Plan

/-!
# The condition of a criterion

A criterion becomes a condition when its operator makes sense between the two types. Left to be
inferred, the operator is membership wherever a list is involved, `like` for text and equality for
the rest. Which operators make sense:

* equality between scalars that are not records;
* the orderings between scalars that have an order, the text operators between texts;
* membership where one side is a list of the other, or both are lists;
* the null checks where the model value can be absent.

A field's negation is applied last, to the whole condition.
-/

namespace Sift

namespace ModelSide

/-! ## 1. Operators and types -/

/-- Whether both sides are lists, one `optional` looked through. -/
def bothLists (side : ModelSide) (filterType : FieldType) : Bool :=
  filterType.element?.isSome && side.type.element?.isSome

/-- Whether the two sides are scalars of one type, up to one `optional`. -/
def scalar (side : ModelSide) (filterType : FieldType) : Bool :=
  (side.fit == some .identical || side.fit == some .nullable) && !side.bothLists filterType

/-- The operator of a field that names none. -/
def inferred (side : ModelSide) (filterType : FieldType) : Operator :=
  if side.bothLists filterType || side.fit.any Fit.isMembership then .isIn
  else if filterType.isText then .like
  else .equal

/-- The operator that is carried out. -/
def effective (side : ModelSide) (filterType : FieldType) : Operator → Operator
  | .auto => side.inferred filterType
  | op => op

/-- The comparison of an operator on scalars. -/
def comparison? (like : LikeMode) : Operator → Option Comparison
  | .equal | .notEqual => some .equal
  | .greaterThan => some .greater
  | .greaterOrEqual => some .greaterOrEqual
  | .lessThan => some .less
  | .lessOrEqual => some .lessOrEqual
  | .like =>
    match like with
    | .caseInsensitive => some .containsIgnoreCase
    | .ordinal => some .contains
  | .contains => some .contains
  | .startsWith => some .startsWith
  | .endsWith => some .endsWith
  | _ => none

/-- The comparison of a membership. -/
def membership? (side : ModelSide) (filterType : FieldType) : Option Comparison :=
  match side.fit with
  | some (.anyOf _) => some .anyOf
  | some (.includes _) => some .includes
  | some _ => if side.bothLists filterType then some .overlaps else none
  | none => none

/-! ## 2. Conditions -/

/-- The condition of an operator, if it makes sense between the two types. -/
def condition? (side : ModelSide) (like : LikeMode) (field : String) (filterType : FieldType)
    (op : Operator) : Option Condition :=
  let compare (c : Comparison) : Condition := .compare c side.path field
  match op with
  | .equal =>
    if side.scalar filterType && !side.type.isRecord then some (compare .equal) else none
  | .notEqual =>
    if side.scalar filterType && !side.type.isRecord then some (compare .equal).negated else none
  | .greaterThan | .greaterOrEqual | .lessThan | .lessOrEqual =>
    if side.scalar filterType && side.type.isOrderable then (comparison? like op).map compare
    else none
  | .like | .contains | .startsWith | .endsWith =>
    if side.scalar filterType && side.type.isText then (comparison? like op).map compare else none
  | .isIn => (side.membership? filterType).map compare
  | .isNull => if side.nullable then some (.isNull side.path) else none
  | .isNotNull => if side.nullable then some (Condition.isNull side.path).negated else none
  | .auto => none

end ModelSide

namespace Criterion

/-- The condition of a criterion. `filter` is the name of the filter's shape. The operator an error
    names is the one that would have been carried out. -/
def condition (c : Criterion) (filter : String) (options : Options) : Except Error Condition :=
  match c.target with
  | .override => .ok ((Condition.custom c.field).negatedIf c.negate)
  | .model side =>
    let op := side.effective c.filterType c.operator
    match side.condition? options.like c.field c.filterType op with
    | some condition => .ok (condition.negatedIf c.negate)
    | none => .error (.invalidOperator op filter c.field c.filterType side.type)

end Criterion

end Sift
