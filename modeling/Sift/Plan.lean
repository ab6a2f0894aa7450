import Sift.Comparison
import Sift.Guard
import Sift.Path

/-!
# Plans

A plan is a filter in the form in which it can be printed and carried out: one step for each
criterion, in the declaration order of the filter's fields. A step has a condition on a record and
a filter instance, and possibly a guard, a condition on the filter instance alone that has to hold
for the step to count. The steps of a plan combine with AND.
-/

namespace Sift

/-! ## 1. Conditions -/

/-- A condition on a model record and a filter instance. -/
inductive Condition where
  /-- Compares the value at a path of the record with the value of a filter field. -/
  | compare (comparison : Comparison) (model : Path) (filter : String)
  | isNull (model : Path)
  /-- A predicate that was registered for a filter field. -/
  | custom (field : String)
  | not (inner : Condition)
  deriving DecidableEq, Repr, Inhabited

namespace Condition

/-- The opposite condition. A leading `not` is taken away rather than doubled. -/
def negated : Condition → Condition
  | .not inner => inner
  | c => .not c

def isNegated : Condition → Bool
  | .not _ => true
  | _ => false

/-- The opposite condition, if asked for. -/
def negatedIf (negate : Bool) (c : Condition) : Condition :=
  if negate then c.negated else c

def display : Condition → String
  | .compare comparison model filter =>
    "record." ++ model.display ++ " " ++ comparison.symbol ++ " filter." ++ filter
  | .isNull model => "record." ++ model.display ++ " is null"
  | .custom field => "override(filter." ++ field ++ ")"
  | .not inner => "not (" ++ inner.display ++ ")"

@[simp] theorem negated_not (c : Condition) : (Condition.not c).negated = c := rfl

@[simp] theorem negatedIf_true (c : Condition) : c.negatedIf true = c.negated := rfl

@[simp] theorem negatedIf_false (c : Condition) : c.negatedIf false = c := rfl

end Condition

/-! ## 2. Steps and plans -/

structure Step where
  /-- The filter field the step comes from. -/
  field : String
  guard : Option Guard
  condition : Condition
  deriving DecidableEq, Repr, Inhabited

def Step.display (s : Step) : String :=
  match s.guard with
  | some g => "if filter." ++ s.field ++ " " ++ g.describe ++ ": where " ++ s.condition.display
  | none => "where " ++ s.condition.display

structure Plan where
  /-- The name of the model's shape. -/
  model : String
  /-- The name of the filter's shape. -/
  filter : String
  steps : List Step
  deriving DecidableEq, Repr, Inhabited

/-- The plan on a line of its own for each step, numbered from one. -/
def Plan.display (p : Plan) : String :=
  p.filter ++ " -> " ++ p.model ++
    String.join (p.steps.zipIdx.map fun (s, i) =>
      "\n  " ++ toString (i + 1) ++ ". " ++ s.display)

end Sift
