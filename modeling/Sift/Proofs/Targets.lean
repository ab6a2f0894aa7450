import Sift.Proofs.Meaning

/-!
# What becomes of one field

A target is looked up among the matches of the whole filter, and steps are found in passes over all
of its fields. Under distinct names nothing of this is felt: what becomes of a field depends on the
field, on the model, and on whether a predicate is registered for it.

* `Field.Unresolvable` -- no model field goes with the field, and the error that says why;
* `Field.Rejected` -- its operator makes no sense where it reads, and the error that says so;
* `Field.Yields` -- the step of a field, without a word of the filter it stands in;
* `fieldStep_eq_ok_iff_yields`, `fieldStep_eq_error_iff` -- the three cover everything that can
  happen to a searched field;
* `Plan.ofShapes_eq_ok_iff_yields` -- a plan is what the searched fields yield.
-/

namespace Sift

section Except

variable {ε α β : Type}

theorem except_bind_eq_error_iff {x : Except ε α} {k : α → Except ε β} {e : ε} :
    x >>= k = .error e ↔ x = .error e ∨ ∃ a, x = .ok a ∧ k a = .error e := by
  cases x with
  | error e' => simp [bind, Except.bind]
  | ok a => simp [bind, Except.bind]

theorem except_map_eq_error_iff {x : Except ε α} {k : α → β} {e : ε} :
    x.map k = .error e ↔ x = .error e := by
  cases x with
  | error e' => simp [Except.map]
  | ok a => simp [Except.map]

end Except

/-! ## 1. The three outcomes -/

/-- No model field goes with the filter field, and the error that says why. -/
inductive Field.Unresolvable (catalog : Catalog) (model filter : Shape) (d : Field) : Error → Prop
  /-- The declared path leads to no field. -/
  | nowhere {text : String} (declared : d.settings.path = some text)
      (leads : Path.resolve? catalog model text = none) :
      d.Unresolvable catalog model filter (.invalidPath model.name filter.name d.name text)
  /-- The declared path leads to a type that does not fit. -/
  | unfit {text : String} {r : Path.Resolved} (declared : d.settings.path = some text)
      (leads : Path.resolve? catalog model text = some r)
      (unfit : Fit.ofTypes? d.type r.type = none)
      (compares : d.settings.operator.isNullCheck = false) :
      d.Unresolvable catalog model filter
        (.incompatibleTypes model.name filter.name d.name text d.type r.type)
  /-- No path is declared, and a model field of the same name is missing or does not fit. -/
  | unmatched (undeclared : d.settings.path = none)
      (unfit : ∀ target, model.field? d.name = some target →
        Fit.ofTypes? d.type target.type = none ∧ d.settings.operator.isNullCheck = false) :
      d.Unresolvable catalog model filter (.unresolvedCriterion model.name filter.name d.name)

/-- The operator a field searches with makes no sense between its type and the type it reads, and
    the error that says so. -/
inductive Field.Rejected (catalog : Catalog) (model filter : Shape) (options : Options)
    (d : Field) : Error → Prop
  | operator {side : ModelSide} (reads : side.Reads catalog model d)
      (senseless : side.condition? options.like d.name d.type (d.operatorAgainst side.type) =
        none) :
      d.Rejected catalog model filter options
        (.invalidOperator (d.operatorAgainst side.type) filter.name d.name d.type side.type)

/-- The step of a field: its guard by the emptiness policy, and as its condition the registered
    predicate or what its operator makes of the model field it reads, negated if the field says
    so. -/
structure Field.Yields (catalog : Catalog) (model : Shape) (options : Options) (overridden : Prop)
    (d : Field) (step : Step) : Prop where
  field : step.field = d.name
  guard : step.guard =
    if d.settings.ignoreIfEmpty.getD options.ignoreIfEmpty then some (Guard.ofType d.type) else none
  condition :
    (overridden ∧ step.condition = (Condition.custom d.name).negatedIf d.settings.negate) ∨
      (¬ overridden ∧ ∃ (side : ModelSide) (condition : Condition),
        side.Reads catalog model d ∧
        side.condition? options.like d.name d.type (d.operatorAgainst side.type) =
          some condition ∧
        step.condition = condition.negatedIf d.settings.negate)

variable {catalog : Catalog} {model filter : Shape} {overridden : List String} {options : Options}
  {d : Field}

/-! ## 2. Readings of the model -/

/-- A field that declares a path reads what the path leads to. -/
theorem ModelSide.Reads.resolved {side : ModelSide} (h : side.Reads catalog model d) {text : String}
    (hpath : d.settings.path = some text) : ∃ crossed,
      Path.resolve? catalog model text = some ⟨side.path, side.type, crossed⟩ := by
  obtain ⟨crossed, hfollow, _⟩ := h.declared
  have hparse : Path.parse? text = some side.path := by
    simpa only [Field.modelPath?, hpath] using h.path
  exact ⟨crossed, by simp [Path.resolve?, hparse, hfollow]⟩

/-- What is declared where a field without a path searches is the model field of its name. -/
theorem ModelSide.Declared.named {side : ModelSide} (h : side.Declared catalog model d)
    (hpath : d.settings.path = none) : ∃ target,
      model.field? d.name = some target ∧ target.type = side.type := by
  obtain ⟨crossed, hfollow, _⟩ := h.declared
  have hsingle : Path.single d.name = side.path := by
    simpa only [Field.modelPath?, hpath, Option.some.injEq] using h.path
  rw [← hsingle] at hfollow
  simp only [Path.single, Path.follow?] at hfollow
  obtain ⟨target, htarget, heq⟩ := Option.map_eq_some_iff.mp hfollow
  exact ⟨target, htarget, congrArg Prod.fst heq⟩

/-- A field that declares none reads the model field of its name. -/
theorem ModelSide.Reads.named {side : ModelSide} (h : side.Reads catalog model d)
    (hpath : d.settings.path = none) : ∃ target,
      model.field? d.name = some target ∧ target.type = side.type :=
  ModelSide.Declared.named ⟨h.path, h.declared⟩ hpath

/-- **A field reads the model in one way at most.** -/
theorem ModelSide.Reads.unique {side side' : ModelSide} (h : side.Reads catalog model d)
    (h' : side'.Reads catalog model d) : side = side' := by
  obtain ⟨path, type, fit, nullable⟩ := side
  obtain ⟨path', type', fit', nullable'⟩ := side'
  obtain ⟨hpath, ⟨crossed, hfollow, hnull⟩, hfit, _⟩ := h
  obtain ⟨hpath', ⟨crossed', hfollow', hnull'⟩, hfit', _⟩ := h'
  simp only at hpath hfollow hnull hfit hpath' hfollow' hnull' hfit'
  rw [hpath] at hpath'
  cases hpath'
  rw [hfollow] at hfollow'
  cases hfollow'
  rw [hnull, hnull', hfit, hfit']

/-- **A field that reads the model is not unresolvable.** -/
theorem ModelSide.Reads.resolvable {side : ModelSide} (h : side.Reads catalog model d) (e : Error) :
    ¬ d.Unresolvable catalog model filter e := by
  -- a fit is missing only for null checks, and those are resolved without one
  have fitted : Fit.ofTypes? d.type side.type = none →
      d.settings.operator.isNullCheck = false → False := by
    intro hnone hop
    have hcheck := h.fits (h.fit.trans hnone)
    rw [hop] at hcheck
    cases hcheck
  rintro (⟨hpath, hleads⟩ | ⟨hpath, hleads, hfit, hop⟩ | ⟨hpath, hfit⟩)
  · obtain ⟨crossed, hresolved⟩ := h.resolved hpath
    rw [hleads] at hresolved
    cases hresolved
  · obtain ⟨crossed, hresolved⟩ := h.resolved hpath
    rw [hleads] at hresolved
    cases hresolved
    exact fitted hfit hop
  · obtain ⟨target, htarget, htype⟩ := h.named hpath
    obtain ⟨hnone, hop⟩ := hfit target htarget
    exact fitted (htype ▸ hnone) hop

/-! ## 3. Targets -/

/-- **Under distinct names a field that is matched by name finds exactly its own match.** -/
theorem FieldMatch.find?_all_eq (hn : filter.DistinctNames) (hd : d ∈ filter.searched)
    (hpath : d.settings.path = none) :
    FieldMatch.find? (FieldMatch.all filter model) d.name = FieldMatch.ofField? model d := by
  obtain ⟨hmem, hignore⟩ := Shape.mem_searched.mp hd
  cases hfound : FieldMatch.find? (FieldMatch.all filter model) d.name with
  | some m => exact (FieldMatch.find?_all hn hmem hfound).symm
  | none =>
    cases hown : FieldMatch.ofField? model d with
    | none => rfl
    | some m =>
      have hall : m ∈ FieldMatch.all filter model := by
        refine List.mem_filterMap.mpr ⟨d, List.mem_filter.mpr ⟨hmem, ?_⟩, hown⟩
        simp [hignore, hpath]
      obtain ⟨_, _, _, _, rfl⟩ := FieldMatch.ofField?_eq_some hown
      exact absurd (beq_self_eq_true d.name) (List.find?_eq_none.mp hfound _ hall)

/-- A target is refused to the fields that are unresolvable, for the reason they are. -/
theorem Target.ofField_error {e : Error} (hn : filter.DistinctNames) (hd : d ∈ filter.searched)
    (h : Target.ofField catalog filter model overridden (FieldMatch.all filter model) d =
      .error e) :
    d.name ∉ overridden ∧ d.Unresolvable catalog model filter e := by
  rcases ofField_cases h with ⟨_, heq⟩ | ⟨hover, ⟨text, hpath, heq⟩ | ⟨hpath,
    ⟨_, _, heq⟩ | ⟨hunmatched, ⟨_, _, _, heq⟩ | ⟨hcheck, heq⟩⟩⟩⟩
  · cases heq
  · refine ⟨hover, ?_⟩
    unfold atPath at heq
    split at heq
    · rename_i hleads
      cases heq
      exact .nowhere hpath hleads
    · rename_i r hleads
      simp only at heq
      split at heq
      · rename_i hfit
        cases heq
        simp only [Bool.and_eq_true, Option.isNone_iff_eq_none, Bool.not_eq_true'] at hfit
        exact .unfit hpath hleads hfit.1 hfit.2
      · cases heq
  · cases heq
  · cases heq
  · cases heq
    refine ⟨hover, .unmatched hpath fun target htarget => ⟨?_, ?_⟩⟩
    · -- a fit would have made the field's own match, and that is the one found by name
      rw [FieldMatch.find?_all_eq hn hd hpath] at hunmatched
      cases hfit : Fit.ofTypes? d.type target.type with
      | none => rfl
      | some fit => simp [FieldMatch.ofField?, htarget, hfit] at hunmatched
    · cases hop : d.settings.operator.isNullCheck with
      | false => rfl
      | true =>
        rw [hcheck hop] at htarget
        cases htarget

/-- A field without a predicate gets a target exactly when it reads the model. -/
theorem Target.ofField_eq_ok_iff {side : ModelSide} (hn : filter.DistinctNames)
    (hd : d ∈ filter.searched) (hover : d.name ∉ overridden) :
    Target.ofField catalog filter model overridden (FieldMatch.all filter model) d =
      .ok (.model side) ↔ side.Reads catalog model d := by
  constructor
  · intro h
    rcases Target.ofField_ok hn (Shape.mem_searched.mp hd).1 h with ⟨hin, _⟩ | ⟨_, side', heq, hr⟩
    · exact absurd hin hover
    · cases heq
      exact hr
  · intro hr
    cases h : Target.ofField catalog filter model overridden (FieldMatch.all filter model) d with
    | error e => exact absurd (Target.ofField_error hn hd h).2 (hr.resolvable e)
    | ok t =>
      rcases Target.ofField_ok hn (Shape.mem_searched.mp hd).1 h with
        ⟨hin, _⟩ | ⟨_, side', rfl, hr'⟩
      · exact absurd hin hover
      · rw [hr'.unique hr]

/-- An unresolvable field is refused a target, for the reason it is unresolvable. -/
theorem Field.Unresolvable.ofField_eq {e : Error} (hn : filter.DistinctNames)
    (hd : d ∈ filter.searched) (hover : d.name ∉ overridden)
    (h : d.Unresolvable catalog model filter e) :
    Target.ofField catalog filter model overridden (FieldMatch.all filter model) d = .error e := by
  unfold Target.ofField
  rw [if_neg (by simpa using hover)]
  cases h with
  | nowhere hpath hleads => simp only [hpath, Target.atPath, hleads]
  | unfit hpath hleads hfit hop =>
    simp [hpath, Target.atPath, hleads, hfit, hop]
  | unmatched hpath hfit =>
    have hbyName : Target.byName? (FieldMatch.all filter model) d = none := by
      rw [Target.byName?, Option.map_eq_none_iff, FieldMatch.find?_all_eq hn hd hpath]
      cases htarget : model.field? d.name with
      | none => simp [FieldMatch.ofField?, htarget]
      | some target => simp [FieldMatch.ofField?, htarget, (hfit target htarget).1]
    have hcheck : Target.ofNullCheck? model d = none := by
      unfold Target.ofNullCheck?
      cases htarget : model.field? d.name with
      | none => simp
      | some target => simp [(hfit target htarget).2]
    simp only [hpath, hbyName, hcheck]

/-- A field without a predicate gets no target exactly when it is unresolvable. -/
theorem Target.ofField_eq_error_iff {e : Error} (hn : filter.DistinctNames)
    (hd : d ∈ filter.searched) :
    Target.ofField catalog filter model overridden (FieldMatch.all filter model) d = .error e ↔
      d.name ∉ overridden ∧ d.Unresolvable catalog model filter e :=
  ⟨Target.ofField_error hn hd, fun ⟨hover, hu⟩ => hu.ofField_eq hn hd hover⟩

theorem Target.ofField_override {ms : List FieldMatch} (hover : d.name ∈ overridden) :
    Target.ofField catalog filter model overridden ms d = .ok .override := by
  unfold Target.ofField
  rw [if_pos (by simpa using hover)]

/-! ## 4. Steps -/

/-- **What a field is refused a step for**, also where names repeat: for its target, or for its
    operator where it reads the model. -/
theorem fieldStep_eq_error_iff_ofField {e : Error} :
    fieldStep catalog model filter overridden options d = .error e ↔
      Target.ofField catalog filter model overridden (FieldMatch.all filter model) d = .error e ∨
      ∃ side : ModelSide, Target.ofField catalog filter model overridden
          (FieldMatch.all filter model) d = .ok (.model side) ∧
        side.condition? options.like d.name d.type
          (side.effective d.type d.settings.operator) = none ∧
        e = .invalidOperator (side.effective d.type d.settings.operator) filter.name d.name d.type
          side.type := by
  unfold fieldStep
  refine except_bind_eq_error_iff.trans (or_congr_right ?_)
  simp only [Criterion.step, except_map_eq_error_iff]
  constructor
  · rintro ⟨t, ht, hc⟩
    cases t with
    | override => cases hc
    | model side => exact ⟨side, ht, Criterion.condition_model_eq_error_iff.mp hc⟩
  · rintro ⟨side, ht, hc⟩
    exact ⟨.model side, ht, Criterion.condition_model_eq_error_iff.mpr hc⟩

/-- A criterion that reads the model is refused for its operator alone. -/
theorem Criterion.condition_eq_error_iff {side : ModelSide} (hr : side.Reads catalog model d)
    {e : Error} :
    (Criterion.ofTarget options d (.model side)).condition filter.name options = .error e ↔
      d.Rejected catalog model filter options e := by
  rw [Criterion.condition_model_eq_error_iff, ModelSide.effective_eq hr]
  constructor
  · rintro ⟨hnone, rfl⟩
    exact .operator hr hnone
  · rintro ⟨hr', hnone⟩
    cases hr'.unique hr
    exact ⟨hnone, rfl⟩

/-- **The step of a searched field, whatever other fields its filter has.** -/
theorem fieldStep_eq_ok_iff_yields {step : Step} (hn : filter.DistinctNames)
    (hd : d ∈ filter.searched) :
    fieldStep catalog model filter overridden options d = .ok step ↔
      d.Yields catalog model options (d.name ∈ overridden) step := by
  constructor
  · intro h
    obtain ⟨hfield, hguard, hcondition⟩ := fieldStep_ok hn (Shape.mem_searched.mp hd).1 h
    refine ⟨hfield, hguard, hcondition.imp_right ?_⟩
    rintro ⟨hover, side, condition, hr, hfound, hstep⟩
    rw [ModelSide.effective_eq hr] at hfound
    exact ⟨hover, side, condition, hr, hfound, hstep⟩
  · obtain ⟨field, guard, condition⟩ := step
    rintro ⟨hfield, hguard, h⟩
    cases hfield
    cases hguard
    rcases h with ⟨hover, hc⟩ | ⟨hover, side, condition', hr, hfound, hc⟩
    · cases hc
      exact fieldStep_eq_ok_iff.mpr ⟨_, Target.ofField_override hover, _, rfl, rfl⟩
    · cases hc
      rw [← ModelSide.effective_eq hr] at hfound
      exact fieldStep_eq_ok_iff.mpr ⟨_, (Target.ofField_eq_ok_iff hn hd hover).mpr hr, _,
        Criterion.condition_model_eq_ok_iff.mpr ⟨condition', hfound, rfl⟩, rfl⟩

/-- **A searched field is refused a step exactly when it has no predicate and is unresolvable or
    rejected.** -/
theorem fieldStep_eq_error_iff {e : Error} (hn : filter.DistinctNames) (hd : d ∈ filter.searched) :
    fieldStep catalog model filter overridden options d = .error e ↔
      d.name ∉ overridden ∧ (d.Unresolvable catalog model filter e ∨
        d.Rejected catalog model filter options e) := by
  unfold fieldStep
  refine except_bind_eq_error_iff.trans ?_
  simp only [Criterion.step, except_map_eq_error_iff, Target.ofField_eq_error_iff hn hd]
  constructor
  · rintro (⟨hover, hu⟩ | ⟨t, ht, hc⟩)
    · exact ⟨hover, .inl hu⟩
    · rcases Target.ofField_ok hn (Shape.mem_searched.mp hd).1 ht with
        ⟨_, rfl⟩ | ⟨hover, side, rfl, hr⟩
      · cases hc
      · exact ⟨hover, .inr ((Criterion.condition_eq_error_iff hr).mp hc)⟩
  · rintro ⟨hover, hu | hrej⟩
    · exact .inl ⟨hover, hu⟩
    · obtain ⟨hr, _⟩ := id hrej
      exact .inr ⟨_, (Target.ofField_eq_ok_iff hn hd hover).mpr hr,
        (Criterion.condition_eq_error_iff hr).mpr hrej⟩

/-- **A plan is what the searched fields yield, in declaration order.** -/
theorem Plan.ofShapes_eq_ok_iff_yields {plan : Plan} (hn : filter.DistinctNames) :
    Plan.ofShapes catalog model filter overridden options = .ok plan ↔
      plan.model = model.name ∧ plan.filter = filter.name ∧
        List.Forall₂ (fun d step => d.Yields catalog model options (d.name ∈ overridden) step)
          filter.searched plan.steps := by
  -- within the list the fields are known to be searched fields of the filter
  have hmem : ∀ {R : Field → Step → Prop}, List.Forall₂ R filter.searched plan.steps →
      List.Forall₂ (fun d step => d ∈ filter.searched ∧ R d step) filter.searched plan.steps :=
    fun h => (List.forall₂_and_left _ _).mpr ⟨fun _ hd => hd, h⟩
  rw [Plan.ofShapes_eq_ok_iff]
  refine and_congr_right fun _ => and_congr_right fun _ => ⟨fun h => ?_, fun h => ?_⟩
  · exact (hmem h).imp fun _ _ ⟨hd, hstep⟩ => (fieldStep_eq_ok_iff_yields hn hd).mp hstep
  · exact (hmem h).imp fun _ _ ⟨hd, hstep⟩ => (fieldStep_eq_ok_iff_yields hn hd).mpr hstep

end Sift
