import Sift.Error
import Sift.Plan

/-!
# Events

What the compiler, the caches and the factories report while they work, for a log. An event has a
level, a message and named values, and is written on one line.
-/

namespace Sift

inductive Event where
  | loweringStep (model filter : String) (step : Step)
  | compiled (model filter : String) (steps : Nat)
  | cacheHit (pair : Pair)
  | alreadyStored (pair : Pair)
  | suppliedByProvider (pair : Pair)
  | notAvailable (pair : Pair) (cause : Error)
  | otherSettings (pair : Pair)
  | registered (pair : Pair)
  | overrideRegistered (pair : Pair) (field : String)
  deriving DecidableEq, Repr

namespace Event

def level : Event → String
  | .loweringStep .. | .cacheHit .. => "TRACE"
  | .compiled .. | .alreadyStored .. | .suppliedByProvider .. | .registered .. |
    .overrideRegistered .. => "DEBUG"
  | .notAvailable .. | .otherSettings .. => "WARN"

def text : Event → String
  | .loweringStep .. => "lowering step"
  | .compiled .. => "compiled specification"
  | .cacheHit .. => "specification cache hit"
  | .alreadyStored .. => "specification already stored, discarding new one"
  | .suppliedByProvider .. => "specification supplied by provider"
  | .notAvailable .. => "no specification available"
  | .otherSettings .. => "shared cache holds a specification compiled with other settings"
  | .registered .. => "specification registered"
  | .overrideRegistered .. => "predicate override registered"

/-- The named values of an event, in order. -/
def details : Event → List (String × String)
  | .loweringStep model filter step =>
    [("model", model), ("filter", filter), ("step", step.display)]
  | .compiled model filter steps =>
    [("model", model), ("filter", filter), ("steps", toString steps)]
  | .notAvailable pair cause => [("pair", pair.display), ("error", cause.message)]
  | .overrideRegistered pair field => [("pair", pair.display), ("field", field)]
  | .cacheHit pair | .alreadyStored pair | .suppliedByProvider pair | .otherSettings pair |
    .registered pair => [("pair", pair.display)]

/-- The event as a line of the log. -/
def display (e : Event) : String :=
  " ".intercalate ([e.level, e.text] ++ e.details.map fun (name, value) => name ++ "=" ++ value)

/-- What the compiler reports about a plan that it carries over into tests. -/
def ofPlan (p : Plan) : List Event :=
  p.steps.map (.loweringStep p.model p.filter) ++ [.compiled p.model p.filter p.steps.length]

end Event

end Sift
