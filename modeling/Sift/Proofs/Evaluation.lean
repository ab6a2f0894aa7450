import Sift.Proofs.Sources
import Sift.Proofs.Steps

/-!
# Conditions as truth values

A condition is carried over into a test before it is run. `Condition.eval` reads it directly, and
`Specification.compile_ok` says that a compiled specification answers what its plan says: a record
passes exactly when the condition of every step holds whose guard admits the filter value.
-/

namespace Sift

namespace Condition

/-- The truth of a condition on a record and a filter instance. -/
def eval (overrides : Overrides) (r f : Record) : Condition → Bool
  | .compare comparison model filter => comparison.eval (model.access r) (f.get filter)
  | .isNull model => (model.access r).isAbsent
  | .custom field => (overrides.get? field).any fun p => p r f
  | .not inner => !eval overrides r f inner

variable {overrides : Overrides} {r f : Record}

@[simp] theorem eval_negated (c : Condition) :
    c.negated.eval overrides r f = !c.eval overrides r f := by
  cases c with
  | not inner => simp [eval]
  | compare comparison model filter => rfl
  | isNull model => rfl
  | custom field => rfl

/-- **The negation of a field turns the answer round, whatever the condition.** -/
theorem eval_negatedIf (c : Condition) (negate : Bool) :
    (c.negatedIf negate).eval overrides r f = (negate ^^ c.eval overrides r f) := by
  cases negate <;> simp

/-- **The test a condition is carried over into answers its truth.** -/
theorem eval_of_lower {missing : String → Error} {c : Condition} {p : Predicate}
    (h : c.lower missing overrides = .ok p) : p r f = c.eval overrides r f := by
  induction c generalizing p with
  | compare comparison model filter =>
    cases h
    rfl
  | isNull model =>
    cases h
    rfl
  | custom field =>
    unfold lower at h
    split at h
    · rename_i q hq
      cases h
      simp [eval, hq]
    · cases h
  | not inner ih =>
    obtain ⟨q, hq, rfl⟩ := except_map_eq_ok_iff.mp h
    simp only [eval, ih hq]

end Condition

/-- The guard of a step, if it has one, lets it count for a filter instance. -/
def Step.admits (s : Step) (f : Record) : Bool :=
  s.guard.all fun g => g.admits (f.get s.field)

/-- A step whose guard stands under a policy counts where the policy is off or the guard admits the
    value of its field. -/
theorem Step.admits_eq {s : Step} {policy : Bool} {g : Guard}
    (h : s.guard = if policy then some g else none) (f : Record) :
    s.admits f = (!policy || g.admits (f.get s.field)) := by
  unfold admits
  rw [h]
  cases policy <;> simp

/-- A narrowing is what a step is carried over into: it counts for the filter instances that the
    guard of the step admits, and its predicate answers the truth of the condition. -/
structure Step.CarriedOver (overrides : Overrides) (s : Step) (n : Narrowing) : Prop where
  counts : ∀ f, n.isActive f = s.admits f
  answers : ∀ r f, n.predicate r f = s.condition.eval overrides r f

theorem Step.carriedOver_of_lower {missing : String → Error} {overrides : Overrides} {s : Step}
    {n : Narrowing} (h : s.lower missing overrides = .ok n) : s.CarriedOver overrides n := by
  obtain ⟨p, hp, rfl⟩ := except_map_eq_ok_iff.mp h
  refine ⟨fun f => ?_, fun r f => Condition.eval_of_lower hp⟩
  unfold Narrowing.isActive Step.admits
  cases s.guard <;> rfl

namespace Specification

theorem holds_iff (s : Specification) (r f : Record) :
    s.holds r f = true ↔ ∀ n ∈ s.steps, n.isActive f = true → n.predicate r f = true := by
  unfold holds activeSteps
  rw [List.all_eq_true]
  simp only [List.mem_filter, and_imp]

/-- **Running a specification on a list keeps the records that pass it, in order.** -/
theorem apply_eq_filter (s : Specification) (records : List Record) (f : Record) :
    s.apply records f = records.filter (s.holds · f) :=
  s.left_apply records f

theorem filter_eq (s : Specification) (records : List Record) (f : Record) :
    s.filter records f = records.filter (s.holds · f) :=
  s.apply_eq_filter records f

variable {catalog : Catalog} {model filter : Shape} {overrides : Overrides} {options : Options}

/-- **What a specification is compiled from**: its plan, each step of it carried over. -/
theorem compile_cases {s : Specification}
    (h : compile catalog model filter overrides options = .ok s) :
    ∃ plan, Plan.ofShapes catalog model filter overrides.fields options = .ok plan ∧
      s.plan = some plan ∧ List.Forall₂ (Step.CarriedOver overrides) plan.steps s.steps := by
  obtain ⟨plan, hplan, h⟩ := except_bind_eq_ok_iff.mp h
  obtain ⟨steps, hsteps, h⟩ := except_bind_eq_ok_iff.mp h
  cases h
  exact ⟨plan, hplan, rfl, (mapM_eq_ok_iff.mp hsteps).imp fun _ _ => Step.carriedOver_of_lower⟩

/-- **A compiled specification has a narrowing for each searched field**, in declaration order: the
    one its step is carried over into. -/
theorem steps_of_compile {s : Specification}
    (h : compile catalog model filter overrides options = .ok s) :
    List.Forall₂ (fun d n => ∃ step,
        fieldStep catalog model filter overrides.fields options d = .ok step ∧
        ∀ r f, n.isActive f = step.admits f ∧ n.predicate r f = step.condition.eval overrides r f)
      filter.searched s.steps := by
  obtain ⟨plan, hplan, _, hcarried⟩ := compile_cases h
  obtain ⟨_, _, hfields⟩ := Plan.ofShapes_eq_ok_iff.mp hplan
  have hboth := forall₂_exists_iff.mp ⟨plan.steps, hfields, hcarried⟩
  exact hboth.imp fun _ _ ⟨step, hstep, hn⟩ =>
    ⟨step, hstep, fun r f => ⟨hn.counts f, hn.answers r f⟩⟩

/-- **A compiled specification answers what its plan says.** -/
theorem compile_ok {s : Specification}
    (h : compile catalog model filter overrides options = .ok s) :
    ∃ plan, Plan.ofShapes catalog model filter overrides.fields options = .ok plan ∧
      s.plan = some plan ∧
      ∀ r f, s.holds r f = true ↔
        ∀ step ∈ plan.steps, step.admits f = true → step.condition.eval overrides r f = true := by
  obtain ⟨plan, hplan, hs, hcarried⟩ := compile_cases h
  refine ⟨plan, hplan, hs, fun r f => ?_⟩
  rw [holds_iff]
  refine (forall_mem_congr hcarried fun step n hn => ?_).symm
  rw [hn.counts, hn.answers]

end Specification

end Sift
