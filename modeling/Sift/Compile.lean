import Sift.Criterion.Condition
import Sift.Overrides
import Sift.Specification

/-!
# Compilation

A filter is compiled in two stages. First the plan: the criteria of the filter, each with its guard
and its condition. All targets are found before the first operator is looked at, so an error of the
first kind wins over one of the second wherever the two stand. Then the steps of the plan become
tests on records.
-/

namespace Sift

namespace Criterion

/-- The step of a criterion. -/
def step (options : Options) (filter : String) (c : Criterion) : Except Error Step :=
  (c.condition filter options).map fun condition =>
    ⟨c.field, if c.ignoreIfEmpty then some (.ofType c.filterType) else none, condition⟩

end Criterion

namespace Plan

/-- The plan of a filter over a model; `overridden` are the fields with a predicate of their own. -/
def ofShapes (catalog : Catalog) (model filter : Shape) (overridden : List String)
    (options : Options) : Except Error Plan := do
  let criteria ← Criterion.ofShapes catalog filter model overridden options
  let steps ← criteria.mapM (Criterion.step options filter.name)
  return ⟨model.name, filter.name, steps⟩

end Plan

namespace Condition

/-- The test a condition stands for. `missing` is the error for a custom condition whose field has
    no predicate. -/
def lower (missing : String → Error) (overrides : Overrides) : Condition → Except Error Predicate
  | .compare comparison model filter =>
    .ok fun r f => comparison.eval (model.access r) (f.get filter)
  | .isNull model => .ok fun r _ => (model.access r).isAbsent
  | .custom field =>
    match overrides.get? field with
    | some p => .ok p
    | none => .error (missing field)
  | .not inner => (lower missing overrides inner).map fun p r f => !p r f

end Condition

namespace Step

/-- The narrowing a step stands for. -/
def lower (missing : String → Error) (overrides : Overrides) (s : Step) :
    Except Error Narrowing :=
  (s.condition.lower missing overrides).map fun p =>
    ⟨s.guard.map fun g f => g.admits (f.get s.field), p⟩

end Step

namespace Specification

/-- Carries a plan over into tests on records. -/
def ofPlan (overrides : Overrides) (plan : Plan) : Except Error Specification := do
  let steps ← plan.steps.mapM
    (Step.lower (fun field => .unresolvedCriterion plan.model plan.filter field) overrides)
  return ⟨some plan, steps⟩

/-- Compiles a filter over a model. -/
def compile (catalog : Catalog) (model filter : Shape) (overrides : Overrides)
    (options : Options) : Except Error Specification := do
  let plan ← Plan.ofShapes catalog model filter overrides.fields options
  ofPlan overrides plan

end Specification

end Sift
