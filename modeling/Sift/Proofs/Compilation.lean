import Sift.Proofs.Planning

/-!
# A filter compiles exactly when it has a plan

A filter is compiled in two stages, and the two know the registered predicates in different forms.
Planning is told the names of the overridden fields and leaves a custom condition for each of them;
carrying the plan over looks the predicates up, at any depth of negation, and has an error of its
own for one that is missing. This file says that the second stage is never refused:

* `mem_of_fieldStep` -- the invariant: a custom condition stands only where a predicate is
  registered;
* `lower_of_fieldStep` -- so the step of a field is always carried over;
* `Specification.ofPlan_of_ofShapes` -- and a plan as a whole, into one narrowing for each step;
* `Specification.compile_isOk_iff_fieldStep`, `Specification.compile_isOk_iff` -- a filter compiles
  exactly when each of its searched fields has a step;
* `Specification.compile_as_planned` -- the main statement.

Names may repeat, unless it is said that they do not.
-/

namespace Sift

section Lists

variable {α β : Type}

/-- A list of which every element has a partner has a list of partners. -/
theorem exists_forall₂ {R : α → β → Prop} {xs : List α} (h : ∀ x ∈ xs, ∃ y, R x y) :
    ∃ ys, List.Forall₂ R xs ys := by
  induction xs with
  | nil => exact ⟨[], .nil⟩
  | cons x xs ih =>
    obtain ⟨⟨y, hy⟩, hxs⟩ := List.forall_mem_cons.mp h
    obtain ⟨ys, hys⟩ := ih hxs
    exact ⟨y :: ys, .cons hy hys⟩

end Lists

/-! ## 1. Custom conditions -/

/-- A condition is carried over into a test if the field it may ask for a predicate has one. -/
theorem Condition.lower_isOk (missing : String → Error) {o : Overrides} {c : Condition}
    (h : ∀ field, c.atom = .custom field → field ∈ o.fields) :
    ∃ p, c.lower missing o = .ok p := by
  induction c with
  | compare comparison model filter => exact ⟨_, rfl⟩
  | isNull model => exact ⟨_, rfl⟩
  | custom field =>
    obtain ⟨p, hp⟩ := Option.isSome_iff_exists.mp (Overrides.mem_fields_iff.mp (h field rfl))
    exact ⟨p, by simp only [lower, hp]⟩
  | not inner ih =>
    obtain ⟨p, hp⟩ := ih h
    exact ⟨_, by simp only [lower, hp]; rfl⟩

/-- What reads the model asks for no predicate. -/
theorem ModelSide.atom_ne_custom {side : ModelSide} {like : LikeMode} {name : String}
    {filterType : FieldType} {op : Operator} {c : Condition}
    (h : side.condition? like name filterType op = some c) (field : String) :
    c.atom ≠ .custom field := by
  intro hatom
  -- it is a null check or a comparison
  rcases ModelSide.condition?_cases h with ⟨_, _, rfl⟩ | ⟨_, _, _, rfl⟩
  · rw [Condition.atom_negatedIf] at hatom
    cases hatom
  · rw [Condition.atom_negatedIf] at hatom
    cases hatom

section Compile

variable {catalog : Catalog} {model filter : Shape} {overridden : List String} {options : Options}
  {o : Overrides} {d : Field} {step : Step} {plan : Plan}

/-- Only the fields that have a predicate get it for their target. -/
theorem Target.mem_of_ofField
    (h : ofField catalog filter model overridden (FieldMatch.all filter model) d = .ok .override) :
    d.name ∈ overridden := by
  rcases ofField_cases h with ⟨hover, _⟩ | ⟨_, ⟨text, htext, heq⟩ | ⟨_,
    ⟨m, _, heq⟩ | ⟨_, ⟨_, target, _, heq⟩ | ⟨_, heq⟩⟩⟩⟩
  · exact hover
  · obtain ⟨side, hside, _⟩ := atPath_ok htext heq.symm
    cases hside
  · cases heq
  · cases heq
  · cases heq

/-- A field that has a predicate reads nothing of the model. -/
theorem Target.not_mem_of_ofField {side : ModelSide}
    (h : ofField catalog filter model overridden (FieldMatch.all filter model) d =
      .ok (.model side)) : d.name ∉ overridden := by
  intro hover
  rw [ofField_override hover] at h
  cases h

/-- **Where the condition of a step comes from**, also where names repeat: it is the registered
    predicate, or what the operator makes of the target, negated if the field says so. -/
theorem fieldStep_condition_cases
    (h : fieldStep catalog model filter overridden options d = .ok step) :
    (d.name ∈ overridden ∧
        step.condition = (Condition.custom d.name).negatedIf d.settings.negate) ∨
      (d.name ∉ overridden ∧ ∃ (side : ModelSide) (made : Condition),
        Target.ofField catalog filter model overridden (FieldMatch.all filter model) d =
          .ok (.model side) ∧
        side.condition? options.like d.name d.type (side.effective d.type d.settings.operator) =
          some made ∧
        step.condition = made.negatedIf d.settings.negate) := by
  obtain ⟨t, ht, condition, hcondition, rfl⟩ := fieldStep_eq_ok_iff.mp h
  cases t with
  | override =>
    cases hcondition
    exact .inl ⟨Target.mem_of_ofField ht, rfl⟩
  | model side =>
    obtain ⟨made, hmade, rfl⟩ := Criterion.condition_model_eq_ok_iff.mp hcondition
    exact .inr ⟨Target.not_mem_of_ofField ht, side, made, ht, hmade, rfl⟩

/-- **A custom condition stands only where a predicate is registered.** -/
theorem mem_of_fieldStep (h : fieldStep catalog model filter overridden options d = .ok step)
    {field : String} (hatom : step.condition.atom = .custom field) : field ∈ overridden := by
  rcases fieldStep_condition_cases h with ⟨hover, hc⟩ | ⟨_, side, made, _, hmade, hc⟩
  · rw [hc, Condition.atom_negatedIf] at hatom
    cases hatom
    exact hover
  · rw [hc, Condition.atom_negatedIf] at hatom
    exact absurd hatom (ModelSide.atom_ne_custom hmade field)

/-- **The step of a field is carried over.** -/
theorem lower_of_fieldStep (missing : String → Error)
    (h : fieldStep catalog model filter o.fields options d = .ok step) :
    ∃ n, step.lower missing o = .ok n := by
  obtain ⟨p, hp⟩ := Condition.lower_isOk missing fun _ hatom => mem_of_fieldStep h hatom
  exact ⟨_, by rw [Step.lower, hp]; rfl⟩

/-! ## 2. Plans -/

/-- Every step of a plan is that of a searched field. -/
theorem Plan.exists_fieldStep
    (h : ofShapes catalog model filter overridden options = .ok plan) (hstep : step ∈ plan.steps) :
    ∃ d ∈ filter.searched, fieldStep catalog model filter overridden options d = .ok step :=
  exists_left_of_forall₂ (Plan.ofShapes_eq_ok_iff.mp h).2.2 hstep

/-- **A plan is carried over as a whole**, into one narrowing for each of its steps. -/
theorem Specification.ofPlan_of_ofShapes
    (h : Plan.ofShapes catalog model filter o.fields options = .ok plan) :
    ∃ s, ofPlan o plan = .ok s := by
  have hcarried : ∀ step ∈ plan.steps,
      ∃ n, step.lower (.unresolvedCriterion plan.model plan.filter) o = .ok n := by
    intro step hstep
    obtain ⟨_, _, hfield⟩ := Plan.exists_fieldStep h hstep
    exact lower_of_fieldStep _ hfield
  obtain ⟨narrowings, hnarrowings⟩ := exists_forall₂ hcarried
  exact ⟨_, except_bind_eq_ok_iff.mpr ⟨narrowings, mapM_eq_ok_iff.mpr hnarrowings, rfl⟩⟩

/-- **A filter compiles exactly when it has a plan.** -/
theorem Specification.compile_isOk_iff_ofShapes :
    (∃ s, compile catalog model filter o options = .ok s) ↔
      ∃ plan, Plan.ofShapes catalog model filter o.fields options = .ok plan := by
  constructor
  · rintro ⟨s, hs⟩
    obtain ⟨plan, hplan, _⟩ := except_bind_eq_ok_iff.mp hs
    exact ⟨plan, hplan⟩
  · rintro ⟨plan, hplan⟩
    obtain ⟨s, hs⟩ := ofPlan_of_ofShapes hplan
    exact ⟨s, except_bind_eq_ok_iff.mpr ⟨plan, hplan, hs⟩⟩

/-- **A filter is refused what its plan is refused**: carrying a plan over never fails. -/
theorem Specification.compile_eq_error_iff {e : Error} :
    compile catalog model filter o options = .error e ↔
      Plan.ofShapes catalog model filter o.fields options = .error e := by
  constructor
  · intro h
    rcases except_bind_eq_error_iff.mp h with hplan | ⟨plan, hplan, hcarried⟩
    · exact hplan
    · obtain ⟨s, hs⟩ := ofPlan_of_ofShapes hplan
      rw [hcarried] at hs
      cases hs
  · intro h
    exact except_bind_eq_error_iff.mpr (.inl h)

/-- **A filter compiles exactly when every searched field has a step.** -/
theorem Specification.compile_isOk_iff_fieldStep :
    (∃ s, compile catalog model filter o options = .ok s) ↔
      ∀ d ∈ filter.searched, ∃ step,
        fieldStep catalog model filter o.fields options d = .ok step := by
  rw [compile_isOk_iff_ofShapes]
  constructor
  · rintro ⟨plan, hplan⟩ d hd
    obtain ⟨step, _, hstep⟩ :=
      exists_left_of_forall₂ (Plan.ofShapes_eq_ok_iff.mp hplan).2.2.flip hd
    exact ⟨step, hstep⟩
  · intro h
    obtain ⟨steps, hsteps⟩ := exists_forall₂ h
    exact ⟨⟨model.name, filter.name, steps⟩, Plan.ofShapes_eq_ok_iff.mpr ⟨rfl, rfl, hsteps⟩⟩

/-- **A filter whose names are distinct compiles exactly when every searched field yields a
    step.** -/
theorem Specification.compile_isOk_iff (hn : filter.DistinctNames) :
    (∃ s, compile catalog model filter o options = .ok s) ↔
      ∀ d ∈ filter.searched, ∃ step, d.Yields catalog model options (d.name ∈ o.fields) step := by
  rw [compile_isOk_iff_fieldStep]
  exact forall₂_congr fun d hd => exists_congr fun step => fieldStep_eq_ok_iff_yields hn hd

end Compile

/-- **Compiling adds nothing to planning.** For any shapes and options, and whatever predicates are
    registered: a filter compiles exactly if it has a plan. The specification then has that plan,
    and one narrowing for each step of it, in order; and the error of a filter that does not compile
    is the error of its plan. A predicate that is asked for is always registered, so a step of a
    plan is never refused, whatever the error for a missing predicate would be. -/
theorem Specification.compile_as_planned (catalog : Catalog) (model filter : Shape) (o : Overrides)
    (options : Options) :
    ((∃ s, compile catalog model filter o options = .ok s) ↔
      ∃ plan, Plan.ofShapes catalog model filter o.fields options = .ok plan) ∧
    (∀ s plan, compile catalog model filter o options = .ok s →
      Plan.ofShapes catalog model filter o.fields options = .ok plan →
      s.plan = some plan ∧ List.Forall₂ (Step.CarriedOver o) plan.steps s.steps) ∧
    (∀ e, compile catalog model filter o options = .error e ↔
      Plan.ofShapes catalog model filter o.fields options = .error e) ∧
    ∀ plan, Plan.ofShapes catalog model filter o.fields options = .ok plan →
      ∀ step ∈ plan.steps,
        (∀ field, step.condition.atom = .custom field → (o.get? field).isSome = true) ∧
        ∀ missing e, step.lower missing o ≠ .error e := by
  refine ⟨compile_isOk_iff_ofShapes, ?plan, fun e => compile_eq_error_iff, ?reached⟩
  case plan =>
    intro s plan hs hplan
    obtain ⟨plan', hplan', hcarried⟩ := compile_cases hs
    rw [hplan] at hplan'
    cases hplan'
    exact hcarried
  case reached =>
    intro plan hplan step hstep
    obtain ⟨d, _, hfield⟩ := Plan.exists_fieldStep hplan hstep
    refine ⟨fun field hatom => Overrides.mem_fields_iff.mp (mem_of_fieldStep hfield hatom), ?_⟩
    intro missing e herror
    obtain ⟨n, hn⟩ := lower_of_fieldStep missing hfield
    rw [herror] at hn
    cases hn

namespace Ticket

/-- A predicate for the title that any ticket passes. -/
def anyTitle : Registration := ⟨"title", .text, fun _ _ => true⟩

/-- The worked filter compiles with its predicate for the title, since it has a plan, and the
    predicate is found when the first step asks for it. The muddled filter is refused what its plan
    is refused. -/
theorem compile_as_planned_title :
    (∃ s plan, Specification.compile catalog model filter
        (Overrides.ofRegistrations filter [anyTitle]) .default = .ok s ∧
      s.plan = some plan ∧ plan.steps.length = s.steps.length ∧
      ∃ step ∈ plan.steps, step.condition.atom = .custom "title") ∧
    ((Overrides.ofRegistrations filter [anyTitle]).get? "title").isSome = true ∧
    Specification.compile catalog model muddled (Overrides.ofRegistrations muddled [anyTitle])
      .default = .error (.unresolvedCriterion "Ticket" "MuddledFilter" "colour") := by
  have hplan : ∃ plan, Plan.ofShapes catalog model filter
      (Overrides.ofRegistrations filter [anyTitle]).fields .default = .ok plan ∧
      ∃ step ∈ plan.steps, step.condition.atom = .custom "title" :=
    ⟨_, rfl, _, List.mem_cons_self, rfl⟩
  obtain ⟨plan, hplan, step, hstep, hatom⟩ := hplan
  obtain ⟨hcompiles, hplanned, -, hreached⟩ := Specification.compile_as_planned catalog model filter
    (Overrides.ofRegistrations filter [anyTitle]) .default
  obtain ⟨s, hs⟩ := hcompiles.mpr ⟨plan, hplan⟩
  obtain ⟨hsplan, hcarried⟩ := hplanned s plan hs hplan
  refine ⟨⟨s, plan, hs, hsplan, hcarried.length_eq, step, hstep, hatom⟩,
    (hreached plan hplan step hstep).1 "title" hatom, ?muddled⟩
  case muddled =>
    obtain ⟨-, -, hrefused, -⟩ := Specification.compile_as_planned catalog model muddled
      (Overrides.ofRegistrations muddled [anyTitle]) .default
    exact (hrefused _).mpr rfl

end Ticket

end Sift
