import Sift.Error
import Sift.Fit
import Sift.Options

/-!
# Criteria

Every filter field that is not ignored becomes one criterion, and a criterion has a target. The
target is the first of these that there is:

1. the predicate that was registered for the field;
2. the model field at the path the field declares;
3. the model field of the same name, if the types fit;
4. the model field of the same name, if the operator is a null check. It never reads the filter
   value, so the types need not fit.

A declared path that leads nowhere, or to a type that does not fit, is an error and not a reason to
look further.
-/

namespace Sift

/-- The model side of a criterion. -/
structure ModelSide where
  path : Path
  type : FieldType
  /-- How the filter type fits; there is none for some null checks. -/
  fit : Option Fit
  /-- Whether the value can be absent in a record that conforms to its shape. -/
  nullable : Bool
  deriving DecidableEq, Repr

inductive Target where
  | override
  | model (side : ModelSide)
  deriving DecidableEq, Repr

structure Criterion where
  field : String
  filterType : FieldType
  operator : Operator
  negate : Bool
  /-- Whether the emptiness policy is in force for the field. -/
  ignoreIfEmpty : Bool
  target : Target
  deriving DecidableEq, Repr

namespace Target

/-- The target of a field that declares a path. -/
def atPath (catalog : Catalog) (filter model : Shape) (f : Field) (path : String) :
    Except Error Target :=
  match Path.resolve? catalog model path with
  | none => .error (.invalidPath model.name filter.name f.name path)
  | some r =>
    let fit := Fit.ofTypes? f.type r.type
    if fit.isNone && !f.settings.operator.isNullCheck then
      .error (.incompatibleTypes model.name filter.name f.name path f.type r.type)
    else
      .ok (.model ⟨r.path, r.type, fit, r.throughOptional || r.type.isOptional⟩)

/-- The target of a field by its name, from the matches of the whole filter. -/
def byName? (ms : List FieldMatch) (f : Field) : Option Target :=
  (FieldMatch.find? ms f.name).map fun m =>
    .model ⟨m.path, m.modelType, some m.fit, m.modelType.isOptional⟩

/-- The target of a null check by the field's name, whatever the types. -/
def ofNullCheck? (model : Shape) (f : Field) : Option Target :=
  if f.settings.operator.isNullCheck then
    (model.field? f.name).map fun m =>
      .model ⟨.single m.name, m.type, Fit.ofTypes? f.type m.type, m.type.isOptional⟩
  else
    none

/-- The target of a filter field. -/
def ofField (catalog : Catalog) (filter model : Shape) (overridden : List String)
    (ms : List FieldMatch) (f : Field) : Except Error Target :=
  if overridden.contains f.name then .ok .override
  else
    match f.settings.path with
    | some path => atPath catalog filter model f path
    | none =>
      match byName? ms f with
      | some t => .ok t
      | none =>
        match ofNullCheck? model f with
        | some t => .ok t
        | none => .error (.unresolvedCriterion model.name filter.name f.name)

end Target

namespace Criterion

/-- The criterion of a filter field, its target known. -/
def ofTarget (options : Options) (f : Field) (target : Target) : Criterion :=
  ⟨f.name, f.type, f.settings.operator, f.settings.negate,
    f.settings.ignoreIfEmpty.getD options.ignoreIfEmpty, target⟩

/-- The criteria of a filter, in the declaration order of its fields. The first field without a
    target decides the error. -/
def ofShapes (catalog : Catalog) (filter model : Shape) (overridden : List String)
    (options : Options) : Except Error (List Criterion) :=
  filter.searched.mapM fun f =>
    (Target.ofField catalog filter model overridden (FieldMatch.all filter model) f).map
      (ofTarget options f)

end Criterion

end Sift
