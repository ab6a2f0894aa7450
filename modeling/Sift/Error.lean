import Sift.FieldType
import Sift.Operator
import Sift.Pair

/-!
# Errors

One constructor for each way in which a filter cannot be compiled, a predicate cannot be
overridden or a specification cannot be obtained, with what is needed to tell the user where.
Shapes are named by their own names; pairs of types are named by the types.
-/

namespace Sift

inductive Error where
  /-- No field of the model goes with the filter field. -/
  | unresolvedCriterion (model filter field : String)
  /-- The declared path leads to no field of the model. -/
  | invalidPath (model filter field path : String)
  /-- The declared path leads to a field whose type does not fit. -/
  | incompatibleTypes (model filter field path : String) (filterType modelType : FieldType)
  /-- The operator makes no sense between the two types. -/
  | invalidOperator (operator : Operator) (filter field : String)
      (filterType modelType : FieldType)
  | unknownField (filter field : String)
  /-- The predicate is written for values of another type. -/
  | incompatibleOverride (filter field : String) (expected actual : FieldType)
  | ignoredField (filter field : String)
  | alreadyRegistered (pair : Pair)
  /-- The provider answered with a specification of another pair. -/
  | providerMismatch (pair : Pair)
  /-- The shared cache holds a specification that was compiled under other settings. -/
  | configurationMismatch (pair : Pair)
  /-- Neither the cache nor the provider nor the compiler has a specification. -/
  | notConfigured (pair : Pair) (cause : Error)
  deriving DecidableEq, Repr, Inhabited

namespace Error

def message : Error → String
  | .unresolvedCriterion model filter field =>
    "filter field '" ++ filter ++ "." ++ field ++ "' does not match any field of '" ++ model ++ "'"
  | .invalidPath model filter field path =>
    "path '" ++ path ++ "' of filter field '" ++ filter ++ "." ++ field ++
      "' does not exist on '" ++ model ++ "'"
  | .incompatibleTypes model filter field path filterType modelType =>
    "filter field '" ++ filter ++ "." ++ field ++ "' (" ++ filterType.display ++
      ") cannot be compared with '" ++ model ++ "." ++ path ++ "' (" ++ modelType.display ++ ")"
  | .invalidOperator operator filter field filterType modelType =>
    "operator '" ++ operator.name ++ "' is not valid for filter field '" ++ filter ++ "." ++
      field ++ "' (" ++ filterType.display ++ " against " ++ modelType.display ++ ")"
  | .unknownField filter field => "filter '" ++ filter ++ "' has no field '" ++ field ++ "'"
  | .incompatibleOverride filter field expected actual =>
    "predicate override for '" ++ filter ++ "." ++ field ++ "' expects " ++ expected.display ++
      ", got " ++ actual.display
  | .ignoredField filter field =>
    "filter field '" ++ filter ++ "." ++ field ++ "' is ignored and cannot be overridden"
  | .alreadyRegistered pair => "a specification for " ++ pair.display ++ " is already registered"
  | .providerMismatch pair =>
    "specification provider returned a mismatched specification for " ++ pair.display
  | .configurationMismatch pair =>
    "specification for " ++ pair.display ++
      " in the shared cache was compiled with different options or overrides"
  | .notConfigured pair _ => "no specification configured for " ++ pair.display

end Error

end Sift
