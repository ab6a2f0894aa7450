import Sift.Path
import Sift.Shape

/-!
# How two field types fit together

A filter field can search a model field when their types fit. They fit as scalars when they are
equal or differ by one `optional`, and as a membership when one is a list of the other, the
element again up to one `optional`. Lists of lists have a membership only where the other side is
not itself a list.

`Fit.matches` pairs the fields of two shapes by name, as far as their types fit.
-/

namespace Sift

/-- How a filter type fits a model type. In a membership, `nullable` says that the element and the
    scalar differ by one `optional`. -/
inductive Fit where
  | identical
  | nullable
  /-- The filter is a list of what the model holds. -/
  | anyOf (nullable : Bool)
  /-- The model is a list of what the filter holds. -/
  | includes (nullable : Bool)
  deriving DecidableEq, Repr

namespace Fit

/-! ## 1. The rules -/

/-- Whether one type is the other inside one `optional`. -/
def nullablePair (a b : FieldType) : Bool :=
  a == .optional b || b == .optional a

/-- Whether two types fit as an element and a scalar, and if so, whether by way of `optional`. -/
def element? (a b : FieldType) : Option Bool :=
  if a = b then some false
  else if nullablePair a b then some true
  else none

/-- The fit of a filter type with a model type. The rules are tried in order, and a rule whose
    question about lists is answered with yes decides alone. -/
def ofTypes? (filter model : FieldType) : Option Fit :=
  if filter = model then some .identical
  else if nullablePair filter model then some .nullable
  else
    match if model.isList then none else filter.element? with
    | some e => (element? e model).map .anyOf
    | none =>
      match if filter.isList then none else model.element? with
      | some e => (element? filter e).map .includes
      | none => none

def isMembership : Fit → Bool
  | .anyOf _ | .includes _ => true
  | _ => false

/-- Whether the two sides differ by an `optional`. -/
def unwrapsNullable : Fit → Bool
  | .nullable | .anyOf true | .includes true => true
  | _ => false

/-- The same fit with the two sides exchanged. -/
def mirrored : Fit → Fit
  | .identical => .identical
  | .nullable => .nullable
  | .anyOf n => .includes n
  | .includes n => .anyOf n

@[simp] theorem mirrored_mirrored (k : Fit) : k.mirrored.mirrored = k := by
  cases k <;> rfl

end Fit

/-! ## 2. Fields matched by name -/

/-- A filter field with the model field of the same name, their types fitting. -/
structure FieldMatch where
  field : String
  path : Path
  modelType : FieldType
  fit : Fit
  deriving DecidableEq, Repr

namespace FieldMatch

/-- The match of one filter field. -/
def ofField? (model : Shape) (f : Field) : Option FieldMatch := do
  let target ← model.field? f.name
  let fit ← Fit.ofTypes? f.type target.type
  return ⟨f.name, .single target.name, target.type, fit⟩

/-- The matches of a filter, in the declaration order of its fields. Ignored fields and fields with
    a path of their own are not matched by name. -/
def all (filter model : Shape) : List FieldMatch :=
  (filter.fields.filter fun f => !f.settings.ignore && f.settings.path.isNone).filterMap
    (ofField? model)

/-- The first match of a name. -/
def find? (ms : List FieldMatch) (name : String) : Option FieldMatch :=
  List.find? (fun m => m.field == name) ms

end FieldMatch

end Sift
