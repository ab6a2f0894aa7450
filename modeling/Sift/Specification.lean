import Sift.Overrides
import Sift.Plan
import Sift.Text.Quoted

/-!
# Specifications

A specification is a filter that is ready to run. It narrows a source of records step by step: a
step whose guard does not admit the filter value is skipped, and every other step keeps the records
that pass it. Guards are asked before any record is looked at.

There are several ways of running one, from a test of a single record to narrowing any source that
knows how to keep the records that pass a test.
-/

namespace Sift

/-! ## 1. Sources of records -/

/-- A source that can keep only the records that pass a test. -/
class Source (σ : Type) where
  narrow : (Record → Bool) → σ → σ

instance : Source (List Record) := ⟨List.filter⟩

/-- A source that remembers what was left after each narrowing, in order. -/
structure Trail where
  left : List Record
  history : List (List Record)

namespace Trail

def start (records : List Record) : Trail := ⟨records, []⟩

instance : Source Trail :=
  ⟨fun test t => ⟨t.left.filter test, t.history ++ [t.left.filter test]⟩⟩

end Trail

/-- A choice among records that stay where they are: the places of the chosen ones in their list. -/
structure Selection (records : List Record) where
  places : List (Fin records.length)

namespace Selection

variable {records : List Record}

/-- Every record is chosen. -/
def all (records : List Record) : Selection records := ⟨List.finRange records.length⟩

/-- The chosen records, in the order of their places. -/
def chosen (s : Selection records) : List Record := s.places.map records.get

instance : Source (Selection records) :=
  ⟨fun test s => ⟨s.places.filter fun i => test (records.get i)⟩⟩

end Selection

/-! ## 2. Specifications -/

/-- One narrowing step. -/
structure Narrowing where
  /-- The guard, as a test of the filter instance. -/
  admits : Option (Record → Bool)
  predicate : Predicate

namespace Narrowing

/-- Whether the step counts for a filter instance. -/
def isActive (n : Narrowing) (filter : Record) : Bool :=
  match n.admits with
  | some test => test filter
  | none => true

end Narrowing

structure Specification where
  /-- The plan it was compiled from; a specification written by hand has none. -/
  plan : Option Plan
  steps : List Narrowing

namespace Specification

/-- A specification written by hand: one step, without a guard. -/
def ofPredicate (p : Predicate) : Specification := ⟨none, [⟨none, p⟩]⟩

instance : Inhabited Specification := ⟨⟨none, []⟩⟩

/-- The steps that count for a filter instance, in order. -/
def activeSteps (s : Specification) (filter : Record) : List Narrowing :=
  s.steps.filter (·.isActive filter)

/-! ## 3. Running a specification -/

/-- Narrows a source by every active step, in order. -/
def apply {σ : Type} [Source σ] (s : Specification) (source : σ) (filter : Record) : σ :=
  (s.activeSteps filter).foldl (fun q step => Source.narrow (step.predicate · filter) q) source

/-- Whether one record passes every active step. -/
def holds (s : Specification) (record filter : Record) : Bool :=
  (s.activeSteps filter).all (·.predicate record filter)

/-- The records that pass, in order. -/
def filter (s : Specification) (records : List Record) (filter : Record) : List Record :=
  s.apply records filter

/-- How many records pass. -/
def count (s : Specification) (records : List Record) (filter : Record) : Nat :=
  records.countP (s.holds · filter)

/-- What is left of a list of records when those that do not pass are taken out one by one. -/
def retain (s : Specification) (records : List Record) (filter : Record) : List Record :=
  records.filter (s.holds · filter)

/-- What is left after each narrowing that running the specification makes. -/
def trace (s : Specification) (records : List Record) (filter : Record) : List (List Record) :=
  (s.apply (Trail.start records) filter).history

/-- The text of a specification in an inspection. -/
def inspect (s : Specification) : String :=
  match s.plan with
  | some p =>
    "Specification \x7b model: " ++ Text.quoted p.model ++ ", filter: " ++ Text.quoted p.filter ++
      ", steps: " ++ toString p.steps.length ++ " \x7d"
  | none => "Specification \x7b .. \x7d"

end Specification

end Sift
