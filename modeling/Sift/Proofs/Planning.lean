import Sift.Proofs.Targets

/-!
# A plan is whole or refused

A criterion that got lost between a filter and its plan would let records pass that were to be left
out, and nobody would notice. This file says that none gets lost:

* `FirstOf` -- what is said of the first element of a list that anything is said of;
* `Plan.ofShapes_eq_error_iff` -- the error of a plan is that of the first unresolvable field, and
  only if there is none that of the first field whose operator is rejected. This is where the two
  passes show: targets for all fields come before any operator. Where names repeat, the two kinds of
  error are told apart by targets and steps (`Plan.ofShapes_eq_error_iff_fieldStep`);
* `Field.SearchedBy` -- what a step does for its field;
* `Plan.whole_or_refused` -- a plan has one step for each searched field, or there is none at all.
-/

namespace Sift

/-! ## 1. First refusals -/

section FirstOf

variable {α β ε : Type}

/-- `e` is what `P` says of the first element of a list that it says anything of. -/
def FirstOf (P : α → ε → Prop) (xs : List α) (e : ε) : Prop :=
  ∃ before x after, xs = before ++ x :: after ∧ (∀ y ∈ before, ∀ e', ¬ P y e') ∧ P x e

variable {P : α → ε → Prop} {e : ε}

theorem FirstOf.exists_mem {xs : List α} (h : FirstOf P xs e) : ∃ x ∈ xs, P x e := by
  obtain ⟨before, x, after, rfl, _, hx⟩ := h
  exact ⟨x, List.mem_append_right before List.mem_cons_self, hx⟩

@[simp] theorem firstOf_nil : ¬ FirstOf P [] e := by
  rintro ⟨before, x, after, h, _⟩
  simp at h

theorem firstOf_cons_iff {x : α} {xs : List α} :
    FirstOf P (x :: xs) e ↔ P x e ∨ (∀ e', ¬ P x e') ∧ FirstOf P xs e := by
  constructor
  · rintro ⟨_ | ⟨y, before⟩, z, after, h, hbefore, hz⟩
    · cases h
      exact .inl hz
    · cases h
      rw [List.forall_mem_cons] at hbefore
      exact .inr ⟨hbefore.1, before, z, after, rfl, hbefore.2, hz⟩
  · rintro (hx | ⟨hx, before, z, after, rfl, hbefore, hz⟩)
    · exact ⟨[], x, xs, rfl, by simp, hx⟩
    · exact ⟨x :: before, z, after, rfl, List.forall_mem_cons.mpr ⟨hx, hbefore⟩, hz⟩

/-- Something is said of a first element exactly when something is said of any. -/
theorem exists_firstOf_iff {xs : List α} : (∃ e, FirstOf P xs e) ↔ ∃ x ∈ xs, ∃ e, P x e := by
  induction xs with
  | nil => simp
  | cons x xs ih =>
    simp only [firstOf_cons_iff, exists_or, exists_and_left, ih, List.exists_mem_cons_iff]
    by_cases hx : ∃ e, P x e
    · simp [hx]
    · simp [not_exists.mp hx]

/-- Lists of which the same is said in the same order have the same first of it. -/
theorem firstOf_congr {Q : β → ε → Prop} {xs : List α} {ys : List β}
    (h : List.Forall₂ (fun x y => ∀ e, P x e ↔ Q y e) xs ys) : FirstOf P xs e ↔ FirstOf Q ys e := by
  induction h with
  | nil => simp
  | cons hxy _ ih => simp only [firstOf_cons_iff, hxy, ih]

/-- **A pass over a list is refused what its first refused element is refused.** -/
theorem mapM_eq_error_iff {f : α → Except ε β} {xs : List α} :
    xs.mapM f = .error e ↔ FirstOf (fun x e => f x = .error e) xs e := by
  induction xs with
  | nil => simp [pure, Except.pure]
  | cons x xs ih =>
    rw [List.mapM_cons, firstOf_cons_iff, except_bind_eq_error_iff]
    refine or_congr_right ?_
    constructor
    · rintro ⟨y, hy, h⟩
      rcases except_bind_eq_error_iff.mp h with h | ⟨_, _, h⟩
      · exact ⟨by simp [hy], ih.mp h⟩
      · cases h
    · rintro ⟨hx, h⟩
      cases hy : f x with
      | error e' => exact absurd hy (hx e')
      | ok y => exact ⟨y, rfl, except_bind_eq_error_iff.mpr (.inl (ih.mpr h))⟩

end FirstOf

/-! ## 2. The two passes -/

section Passes

variable {catalog : Catalog} {model filter : Shape} {overridden : List String} {options : Options}
  {e : Error}

/-- **The first pass is refused for the first field that gets no target.** -/
theorem Criterion.ofShapes_eq_error_iff :
    Criterion.ofShapes catalog filter model overridden options = .error e ↔
      FirstOf (fun d e => Target.ofField catalog filter model overridden
        (FieldMatch.all filter model) d = .error e) filter.searched e := by
  unfold Criterion.ofShapes
  rw [mapM_eq_error_iff]
  exact firstOf_congr (List.forall₂_same.mpr fun _ _ _ => except_map_eq_error_iff)

variable (options) in
/-- The first pass succeeds when no field is refused a target. -/
theorem Criterion.ofShapes_isOk_iff :
    (∃ criteria, Criterion.ofShapes catalog filter model overridden options = .ok criteria) ↔
      ∀ d ∈ filter.searched, ∀ e, Target.ofField catalog filter model overridden
        (FieldMatch.all filter model) d ≠ .error e := by
  have hsome : (∃ e, Criterion.ofShapes catalog filter model overridden options = .error e) ↔
      ∃ d ∈ filter.searched, ∃ e, Target.ofField catalog filter model overridden
        (FieldMatch.all filter model) d = .error e :=
    (exists_congr fun e => Criterion.ofShapes_eq_error_iff).trans exists_firstOf_iff
  constructor
  · rintro ⟨criteria, hcriteria⟩ d hd e hrefused
    obtain ⟨e', he⟩ := hsome.mpr ⟨d, hd, e, hrefused⟩
    rw [he] at hcriteria
    cases hcriteria
  · intro h
    cases hcriteria : Criterion.ofShapes catalog filter model overridden options with
    | ok criteria => exact ⟨criteria, rfl⟩
    | error e =>
      obtain ⟨d, hd, e', hrefused⟩ := hsome.mp ⟨e, hcriteria⟩
      exact absurd hrefused (h d hd e')

/-- **The second pass is refused for the first field that gets no step.** All targets are known by
    then. -/
theorem Criterion.steps_eq_error_iff {criteria : List Criterion}
    (h : Criterion.ofShapes catalog filter model overridden options = .ok criteria) :
    criteria.mapM (Criterion.step options filter.name) = .error e ↔
      FirstOf (fun d e => fieldStep catalog model filter overridden options d = .error e)
        filter.searched e := by
  rw [mapM_eq_error_iff]
  refine (firstOf_congr ((Criterion.ofShapes_eq_ok_iff.mp h).imp fun d c hc e => ?_)).symm
  obtain ⟨t, ht, rfl⟩ := hc
  unfold fieldStep
  rw [ht]
  exact Iff.rfl

/-- **The error of a plan, by its two passes**, also where names repeat. -/
theorem Plan.ofShapes_eq_error_iff_fieldStep :
    Plan.ofShapes catalog model filter overridden options = .error e ↔
      FirstOf (fun d e => Target.ofField catalog filter model overridden
        (FieldMatch.all filter model) d = .error e) filter.searched e ∨
      (∀ d ∈ filter.searched, ∀ e', Target.ofField catalog filter model overridden
        (FieldMatch.all filter model) d ≠ .error e') ∧
      FirstOf (fun d e => fieldStep catalog model filter overridden options d = .error e)
        filter.searched e := by
  unfold Plan.ofShapes
  rw [except_bind_eq_error_iff, Criterion.ofShapes_eq_error_iff,
    ← Criterion.ofShapes_isOk_iff options]
  refine or_congr_right ?_
  constructor
  · rintro ⟨criteria, hcriteria, h⟩
    rcases except_bind_eq_error_iff.mp h with h | ⟨_, _, h⟩
    · exact ⟨⟨criteria, hcriteria⟩, (Criterion.steps_eq_error_iff hcriteria).mp h⟩
    · cases h
  · rintro ⟨⟨criteria, hcriteria⟩, h⟩
    exact ⟨criteria, hcriteria,
      except_bind_eq_error_iff.mpr (.inl ((Criterion.steps_eq_error_iff hcriteria).mpr h))⟩

/-- **The error of a plan.** -/
theorem Plan.ofShapes_eq_error_iff (hn : filter.DistinctNames) :
    Plan.ofShapes catalog model filter overridden options = .error e ↔
      FirstOf (fun d e => d.name ∉ overridden ∧ d.Unresolvable catalog model filter e)
        filter.searched e ∨
      (∀ d ∈ filter.searched, ∀ e',
        ¬ (d.name ∉ overridden ∧ d.Unresolvable catalog model filter e')) ∧
      FirstOf (fun d e => d.name ∉ overridden ∧ d.Rejected catalog model filter options e)
        filter.searched e := by
  have htarget : ∀ d ∈ filter.searched, ∀ e, Target.ofField catalog filter model overridden
      (FieldMatch.all filter model) d = .error e ↔
        d.name ∉ overridden ∧ d.Unresolvable catalog model filter e :=
    fun d hd e => Target.ofField_eq_error_iff hn hd
  rw [Plan.ofShapes_eq_error_iff_fieldStep, firstOf_congr (List.forall₂_same.mpr htarget)]
  refine or_congr_right ((and_congr_left' ?_).trans (and_congr_right fun hresolved => ?_))
  · exact forall₂_congr fun d hd => forall_congr' fun e => not_congr (htarget d hd e)
  · -- no field is unresolvable by now, so a step is refused for the operator
    refine firstOf_congr (List.forall₂_same.mpr fun d hd e => ?_)
    rw [fieldStep_eq_error_iff hn hd]
    refine and_congr_right fun hover => ⟨fun h => h.resolve_left fun hu => ?_, .inr⟩
    exact hresolved d hd e ⟨hover, hu⟩

end Passes

/-! ## 3. Steps and their fields -/

namespace Condition

/-- A condition without its negations. -/
def atom : Condition → Condition
  | .not inner => inner.atom
  | c => c

@[simp] theorem atom_negated (c : Condition) : c.negated.atom = c.atom := by
  cases c <;> rfl

@[simp] theorem atom_negatedIf (c : Condition) (negate : Bool) :
    (c.negatedIf negate).atom = c.atom := by
  cases negate <;> simp

/-- Two negations of a condition that is not one itself are at most one. -/
theorem negatedIf_negatedIf {c : Condition} (hc : c.isNegated = false) (a b : Bool) :
    (c.negatedIf a).negatedIf b = c.negatedIf (a ^^ b) := by
  cases c with
  | not inner => cases hc
  | _ => cases a <;> cases b <;> rfl

end Condition

/-- **What a step does for its field**: it asks the predicate of the field exactly if one is
    registered, and else tests what the model has at the path of the field, a comparison being made
    with the value of the field. Up to one negation it does nothing else. -/
structure Field.SearchedBy (catalog : Catalog) (model : Shape) (overridden : List String)
    (d : Field) (step : Step) : Prop where
  field : step.field = d.name
  custom_iff : (∃ negate, step.condition = (Condition.custom d.name).negatedIf negate) ↔
    d.name ∈ overridden
  reads : d.name ∉ overridden → ∃ path, d.modelPath? = some path ∧
    (Path.follow? catalog model path.segments).isSome = true ∧
    ∃ negate, step.condition = (Condition.isNull path).negatedIf negate ∨
      ∃ comparison, step.condition = (Condition.compare comparison path d.name).negatedIf negate

section Plans

variable {catalog : Catalog} {model filter : Shape} {overridden : List String} {options : Options}

/-- **The step a field yields searches for it.** -/
theorem Field.Yields.searchedBy {d : Field} {step : Step}
    (h : d.Yields catalog model options (d.name ∈ overridden) step) :
    d.SearchedBy catalog model overridden step := by
  obtain ⟨hfield, _, ⟨hover, hc⟩ | ⟨hover, side, condition, hr, hcondition, hc⟩⟩ := h
  · exact ⟨hfield, ⟨fun _ => hover, fun _ => ⟨_, hc⟩⟩, absurd hover⟩
  · obtain ⟨crossed, hfollow, _⟩ := hr.declared
    have hatom : ∃ negate, step.condition = (Condition.isNull side.path).negatedIf negate ∨
        ∃ comparison, step.condition =
          (Condition.compare comparison side.path d.name).negatedIf negate := by
      rcases ModelSide.condition?_cases hcondition with ⟨_, _, rfl⟩ | ⟨comparison, _, _, rfl⟩
      · exact ⟨_, .inl (hc.trans (Condition.negatedIf_negatedIf rfl _ _))⟩
      · exact ⟨_, .inr ⟨comparison, hc.trans (Condition.negatedIf_negatedIf rfl _ _)⟩⟩
    refine ⟨hfield, ⟨?_, fun hin => absurd hin hover⟩,
      fun _ => ⟨side.path, hr.path, by rw [hfollow]; rfl, hatom⟩⟩
    -- the atom of a condition tells the two kinds of steps apart
    rintro ⟨negate, hcustom⟩
    obtain ⟨negate', hnull | ⟨comparison, hcompare⟩⟩ := hatom
    · have := congrArg Condition.atom (hcustom.symm.trans hnull)
      simp [Condition.atom] at this
    · have := congrArg Condition.atom (hcustom.symm.trans hcompare)
      simp [Condition.atom] at this

/-- A plan has the searched fields for its steps, each step searching for its field. -/
theorem Plan.searchedBy_of_ofShapes {plan : Plan} (hn : filter.DistinctNames)
    (h : Plan.ofShapes catalog model filter overridden options = .ok plan) :
    List.Forall₂ (Field.SearchedBy catalog model overridden) filter.searched plan.steps := by
  obtain ⟨_, _, hsteps⟩ := (Plan.ofShapes_eq_ok_iff_yields hn).mp h
  exact hsteps.imp fun _ _ hstep => hstep.searchedBy

/-- **A plan is whole or refused.** If there is a plan, its steps are those of the searched fields,
    one each and in declaration order. There is none exactly when some searched field without a
    predicate is unresolvable or has its operator rejected, and the error is that of the first
    unresolvable field, if there is one, and else that of the first rejected one. -/
theorem Plan.whole_or_refused (hn : filter.DistinctNames) :
    (∀ plan, Plan.ofShapes catalog model filter overridden options = .ok plan →
      plan.steps.map (·.field) = filter.searched.map (·.name) ∧
      (plan.steps.map (·.field)).Nodup ∧
      List.Forall₂ (Field.SearchedBy catalog model overridden) filter.searched plan.steps) ∧
    ((∃ e, Plan.ofShapes catalog model filter overridden options = .error e) ↔
      ∃ d ∈ filter.searched, d.name ∉ overridden ∧
        ((∃ e, d.Unresolvable catalog model filter e) ∨
          ∃ e, d.Rejected catalog model filter options e)) ∧
    ∀ e, Plan.ofShapes catalog model filter overridden options = .error e ↔
      FirstOf (fun d e => d.name ∉ overridden ∧ d.Unresolvable catalog model filter e)
        filter.searched e ∨
      (∀ d ∈ filter.searched, ∀ e',
        ¬ (d.name ∉ overridden ∧ d.Unresolvable catalog model filter e')) ∧
      FirstOf (fun d e => d.name ∉ overridden ∧ d.Rejected catalog model filter options e)
        filter.searched e := by
  refine ⟨fun plan hplan => ?_, ?_, fun e => Plan.ofShapes_eq_error_iff hn⟩
  · have hsteps := Plan.searchedBy_of_ofShapes hn hplan
    have hnames : plan.steps.map (·.field) = filter.searched.map (·.name) := by
      rw [← List.forall₂_eq_eq_eq, List.forall₂_map_left_iff, List.forall₂_map_right_iff]
      exact hsteps.flip.imp fun _ _ h => h.field
    refine ⟨hnames, ?_, hsteps⟩
    rw [hnames]
    exact hn.sublist (List.filter_sublist.map _)
  · refine (exists_congr fun e => Plan.ofShapes_eq_error_iff hn).trans ?_
    rw [exists_or, exists_firstOf_iff, exists_and_left, exists_firstOf_iff]
    constructor
    · rintro (⟨d, hd, e, hover, hu⟩ | ⟨_, d, hd, e, hover, hr⟩)
      · exact ⟨d, hd, hover, .inl ⟨e, hu⟩⟩
      · exact ⟨d, hd, hover, .inr ⟨e, hr⟩⟩
    · intro h
      by_cases hu : ∃ d ∈ filter.searched, ∃ e,
          d.name ∉ overridden ∧ d.Unresolvable catalog model filter e
      · exact .inl hu
      · obtain ⟨d, hd, hover, ⟨e, h⟩ | ⟨e, h⟩⟩ := h
        · exact absurd ⟨d, hd, e, hover, h⟩ hu
        · exact .inr ⟨fun d hd e' h => hu ⟨d, hd, e', h⟩, d, hd, e, hover, h⟩

end Plans

namespace Ticket

/-- Asks whether the title is missing, which it cannot be, and for a colour that tickets do not
    have. -/
def muddled : Shape :=
  ⟨"MuddledFilter",
    [⟨"title", .text, ⟨.isNull, false, none, false, none⟩⟩, ⟨"colour", .text, .default⟩]⟩

/-- The plan of the worked filter with a predicate for the title is whole. The muddled filter has
    none, for want of a colour: the operator of the title is not looked at before. -/
theorem whole_or_refused_colour :
    (filter.DistinctNames ∧ ∃ plan,
      Plan.ofShapes catalog model filter ["title"] .default = .ok plan ∧
      plan.steps.map (·.field) = ["title", "tag", "least", "city"] ∧
      List.Forall₂ (Field.SearchedBy catalog model ["title"]) filter.searched plan.steps) ∧
    muddled.DistinctNames ∧
      FirstOf (fun d e => d.name ∉ [] ∧ d.Unresolvable catalog model muddled e) muddled.searched
        (.unresolvedCriterion "Ticket" "MuddledFilter" "colour") := by
  have hn : filter.DistinctNames := by decide
  have hn' : muddled.DistinctNames := by decide
  have hplan : ∃ plan, Plan.ofShapes catalog model filter ["title"] .default = .ok plan := ⟨_, rfl⟩
  refine ⟨⟨hn, hplan.imp fun plan h => ?_⟩, hn', ?_⟩
  · obtain ⟨hnames, _, hsteps⟩ := (Plan.whole_or_refused hn).1 plan h
    exact ⟨h, hnames, hsteps⟩
  · have herror : Plan.ofShapes catalog model muddled [] .default =
        .error (.unresolvedCriterion "Ticket" "MuddledFilter" "colour") := rfl
    rcases ((Plan.whole_or_refused hn').2.2 _).mp herror with h | ⟨_, _, _, _, _, _, _, hrejected⟩
    · exact h
    · cases hrejected

end Ticket

end Sift
