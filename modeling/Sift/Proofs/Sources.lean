import Mathlib.Data.List.FinRange
import Mathlib.Logic.Function.Basic
import Sift.Specification

/-!
# Sources that are narrowed

A specification is run on a source by narrowing it, one step after the other. This file says what
that does to a source, whatever the source is made of.

* `Source.narrowAll` -- narrowings one after the other;
* `LawfulSource` -- a source of which one can say what is left of it, and that keeps exactly the
  records that pass: a list, a choice among records that stay where they are, a source that
  remembers what was left;
* `LawfulSource.left_narrowAll` -- after any number of narrowings the records are left that pass
  every test, in the order in which they stood;
* `Calls` -- a source that keeps no records and only notes what it is asked. Running a specification
  on it shows which narrowings the specification asks of any source.
-/

namespace Sift

/-! ## 1. Narrowings one after the other -/

/-- Narrows a source by one test after the other. -/
def Source.narrowAll {σ : Type} [Source σ] (tests : List (Record → Bool)) (source : σ) : σ :=
  tests.foldl (fun q test => narrow test q) source

namespace Source

variable {σ : Type} [Source σ]

@[simp] theorem narrowAll_nil (source : σ) : narrowAll [] source = source := rfl

@[simp] theorem narrowAll_cons (test : Record → Bool) (tests : List (Record → Bool)) (source : σ) :
    narrowAll (test :: tests) source = narrowAll tests (narrow test source) := rfl

end Source

/-- A source of which one can say what is left, and that keeps exactly the records that pass. -/
class LawfulSource (σ : Type) [Source σ] where
  left : σ → List Record
  left_narrow (test : Record → Bool) (source : σ) :
    left (Source.narrow test source) = (left source).filter test

namespace LawfulSource

/-- **After any number of narrowings the records are left that pass every test.** -/
theorem left_narrowAll {σ : Type} [Source σ] [LawfulSource σ] (tests : List (Record → Bool))
    (source : σ) :
    left (Source.narrowAll tests source) = (left source).filter fun r => tests.all (· r) := by
  induction tests generalizing source with
  | nil => simp
  | cons test tests ih =>
    rw [Source.narrowAll_cons, ih, left_narrow, List.filter_filter]
    simp only [List.all_cons, Bool.and_comm]

/-! ## 2. Lists and choices -/

instance : LawfulSource (List Record) := ⟨id, fun _ _ => rfl⟩

instance {records : List Record} : LawfulSource (Selection records) where
  left s := s.chosen
  left_narrow _ _ := List.filter_map.symm

end LawfulSource

/-- What is left of all records is chosen by the place of each. -/
theorem Selection.places_narrowAll {records : List Record} (tests : List (Record → Bool))
    (s : Selection records) : (Source.narrowAll tests s).places =
      s.places.filter fun i => tests.all (· (records.get i)) := by
  induction tests generalizing s with
  | nil => simp
  | cons test tests ih =>
    rw [Source.narrowAll_cons, ih]
    show (s.places.filter fun i => test (records.get i)).filter _ = _
    rw [List.filter_filter]
    simp only [List.all_cons, Bool.and_comm]

@[simp] theorem Selection.chosen_all (records : List Record) : (all records).chosen = records :=
  List.map_get_finRange records

/-! ## 3. Sources that remember -/

instance : LawfulSource Trail := ⟨Trail.left, fun _ _ => rfl⟩

/-- A source remembers, for each narrowing, the records that passed the tests so far. -/
theorem Trail.history_narrowAll (tests : List (Record → Bool)) (t : Trail) :
    (Source.narrowAll tests t).history = t.history ++
      (List.range tests.length).map fun k =>
        t.left.filter fun r => (tests.take (k + 1)).all (· r) := by
  induction tests generalizing t with
  | nil => simp
  | cons test tests ih =>
    rw [Source.narrowAll_cons, ih]
    show (t.history ++ [t.left.filter test]) ++ _ = _
    rw [List.length_cons, List.range_succ_eq_map, List.map_cons, List.map_map, List.append_assoc]
    refine congrArg (t.history ++ ·)
      (congrArg₂ List.cons ?first (List.map_congr_left fun k _ => ?later))
    case first => simp
    case later =>
      show (t.left.filter test).filter _ = t.left.filter _
      rw [List.filter_filter]
      simp only [Nat.succ_eq_add_one, List.take_succ_cons, List.all_cons, Bool.and_comm]

/-- A source that keeps no records and only notes the tests it is narrowed by. -/
structure Calls where
  tests : List (Record → Bool)

namespace Calls

/-- Nothing was asked yet. -/
def start : Calls := ⟨[]⟩

instance : Source Calls := ⟨fun test c => ⟨c.tests ++ [test]⟩⟩

theorem tests_narrowAll (tests : List (Record → Bool)) (c : Calls) :
    (Source.narrowAll tests c).tests = c.tests ++ tests := by
  induction tests generalizing c with
  | nil => simp
  | cons test tests ih =>
    rw [Source.narrowAll_cons, ih]
    show (c.tests ++ [test]) ++ tests = _
    simp

end Calls

/-! ## 4. Running a specification -/

namespace Specification

/-- The tests that a run of the specification narrows a source by, in order. -/
def tests (s : Specification) (f : Record) : List (Record → Bool) :=
  (s.apply Calls.start f).tests

/-- A run narrows by the tests of the active steps. -/
theorem apply_eq_narrowAll_steps {σ : Type} [Source σ] (s : Specification) (source : σ)
    (f : Record) :
    s.apply source f =
      Source.narrowAll ((s.activeSteps f).map fun n r => n.predicate r f) source := by
  unfold apply Source.narrowAll
  rw [List.foldl_map]

theorem tests_eq (s : Specification) (f : Record) :
    s.tests f = (s.activeSteps f).map fun n r => n.predicate r f := by
  rw [tests, apply_eq_narrowAll_steps, Calls.tests_narrowAll]
  rfl

/-- **A run narrows every source by the same tests**, the one that only notes them included. -/
theorem apply_eq_narrowAll {σ : Type} [Source σ] (s : Specification) (source : σ) (f : Record) :
    s.apply source f = Source.narrowAll (s.tests f) source := by
  rw [tests_eq, apply_eq_narrowAll_steps]

theorem holds_eq_all_tests (s : Specification) (r f : Record) :
    s.holds r f = (s.tests f).all (· r) := by
  rw [tests_eq, List.all_map]
  rfl

/-- **Of a lawful source the records are left that pass.** -/
theorem left_apply {σ : Type} [Source σ] [LawfulSource σ] (s : Specification) (source : σ)
    (f : Record) :
    LawfulSource.left (s.apply source f) = (LawfulSource.left source).filter (s.holds · f) := by
  rw [apply_eq_narrowAll, LawfulSource.left_narrowAll]
  simp only [holds_eq_all_tests]

end Specification

end Sift
