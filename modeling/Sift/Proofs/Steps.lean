import Mathlib.Data.List.Forall2
import Mathlib.Data.List.Nodup
import Sift.Compile

/-!
# The steps of a plan, field by field

A plan is computed in two passes over the whole filter: first every target, then every operator.
This file takes a plan that was found apart again, into one step for each searched field.

* `fieldStep` -- the step of one filter field;
* `ofShapes_eq_ok_iff` -- a plan is found exactly when every searched field has a step, and its
  steps are those, in declaration order;
* `ModelSide.Reads` -- what is known about the model side of a target: the path the field searches
  at, the type declared there, how the filter type fits, and whether the value can be absent. All
  but the fit, `ModelSide.Declared`, is known without distinct names;
* `Target.ofField_cases` -- everything that can become of the search for a target;
* `Target.ofField_ok` -- under distinct names a target is the registered predicate or reads the
  model for its OWN field. Distinct names are needed because matches are looked up by name;
* `Ticket` -- a small filter to try statements on.
-/

namespace Sift

/-! ## 1. Fallible passes -/

section Except

variable {ε α β γ : Type}

theorem except_bind_eq_ok_iff {x : Except ε α} {k : α → Except ε β} {b : β} :
    x >>= k = .ok b ↔ ∃ a, x = .ok a ∧ k a = .ok b := by
  cases x with
  | error e => simp [bind, Except.bind]
  | ok a => simp [bind, Except.bind]

theorem except_map_eq_ok_iff {x : Except ε α} {k : α → β} {b : β} :
    x.map k = .ok b ↔ ∃ a, x = .ok a ∧ k a = b := by
  cases x with
  | error e => simp [Except.map]
  | ok a => simp [Except.map]

/-- **A pass over a list succeeds with the list of the results.** -/
theorem mapM_eq_ok_iff {f : α → Except ε β} {xs : List α} {ys : List β} :
    xs.mapM f = .ok ys ↔ List.Forall₂ (fun x y => f x = .ok y) xs ys := by
  induction xs generalizing ys with
  | nil =>
    rw [List.mapM_nil, List.forall₂_nil_left_iff]
    simp [pure, Except.pure, eq_comm]
  | cons x xs ih =>
    rw [List.mapM_cons, List.forall₂_cons_left_iff, except_bind_eq_ok_iff]
    constructor
    · rintro ⟨y, hy, h⟩
      obtain ⟨rest, hrest, h⟩ := except_bind_eq_ok_iff.mp h
      refine ⟨y, rest, hy, ih.mp hrest, ?_⟩
      simpa [pure, Except.pure] using h.symm
    · rintro ⟨y, rest, hy, hrest, rfl⟩
      exact ⟨y, hy, except_bind_eq_ok_iff.mpr ⟨rest, ih.mpr hrest, rfl⟩⟩

/-- **What each step of a pass keeps, the whole pass keeps.** -/
theorem foldlM_keeps {f : β → α → Except ε β} {P : β → Prop} {xs : List α} {b c : β}
    (hstep : ∀ b x c, P b → f b x = .ok c → P c) (hb : P b) (h : xs.foldlM f b = .ok c) : P c := by
  induction xs generalizing b with
  | nil =>
    cases h
    exact hb
  | cons x xs ih =>
    rw [List.foldlM_cons] at h
    obtain ⟨b', hx, hrest⟩ := except_bind_eq_ok_iff.mp h
    exact ih (hstep b x b' hb hx) hrest

/-- **A pass succeeds exactly if each of its steps would**, where a step does not depend on what was
    done before it. -/
theorem foldlM_isOk_iff {f : β → α → Except ε β} {P : α → Prop} {xs : List α} {b : β}
    (hstep : ∀ b x, (∃ c, f b x = .ok c) ↔ P x) :
    (∃ c, xs.foldlM f b = .ok c) ↔ ∀ x ∈ xs, P x := by
  induction xs generalizing b with
  | nil => simp [pure, Except.pure]
  | cons x xs ih =>
    rw [List.foldlM_cons, List.forall_mem_cons, ← hstep b x]
    constructor
    · intro h
      obtain ⟨c, hc⟩ := h
      obtain ⟨b', hx, hrest⟩ := except_bind_eq_ok_iff.mp hc
      exact ⟨⟨b', hx⟩, ih.mp ⟨c, hrest⟩⟩
    · intro h
      obtain ⟨⟨b', hx⟩, hxs⟩ := h
      obtain ⟨c, hrest⟩ := (ih (b := b')).mpr hxs
      exact ⟨c, except_bind_eq_ok_iff.mpr ⟨b', hx, hrest⟩⟩

/-- Two passes, one over the results of the other, are one pass. -/
theorem forall₂_exists_iff {R : α → γ → Prop} {S : γ → β → Prop} {xs : List α} {ys : List β} :
    (∃ zs, List.Forall₂ R xs zs ∧ List.Forall₂ S zs ys) ↔
      List.Forall₂ (fun x y => ∃ z, R x z ∧ S z y) xs ys := by
  constructor
  · rintro ⟨zs, hR, hS⟩
    induction hR generalizing ys with
    | nil =>
      cases hS
      exact .nil
    | cons hxz _ ih =>
      cases hS with
      | cons hzy hS => exact .cons ⟨_, hxz, hzy⟩ (ih hS)
  · intro h
    induction h with
    | nil => exact ⟨[], .nil, .nil⟩
    | cons hxy _ ih =>
      obtain ⟨z, hxz, hzy⟩ := hxy
      obtain ⟨zs, hR, hS⟩ := ih
      exact ⟨z :: zs, .cons hxz hR, .cons hzy hS⟩

/-- What stands in the second list has a partner in the first. -/
theorem exists_left_of_forall₂ {R : α → β → Prop} {xs : List α} {ys : List β}
    (h : List.Forall₂ R xs ys) {y : β} (hy : y ∈ ys) : ∃ x ∈ xs, R x y := by
  induction h with
  | nil => exact absurd hy List.not_mem_nil
  | cons hxy _ ih =>
    rcases List.mem_cons.mp hy with rfl | hy
    · exact ⟨_, List.mem_cons_self, hxy⟩
    · obtain ⟨x, hx, h⟩ := ih hy
      exact ⟨x, List.mem_cons_of_mem _ hx, h⟩

/-- What holds of partners alike holds of all of one list when it holds of all of the other. -/
theorem forall_mem_congr {R : α → β → Prop} {P : α → Prop} {Q : β → Prop} {xs : List α}
    {ys : List β} (h : List.Forall₂ R xs ys) (hPQ : ∀ x y, R x y → (P x ↔ Q y)) :
    (∀ x ∈ xs, P x) ↔ ∀ y ∈ ys, Q y := by
  induction h with
  | nil => simp
  | cons hxy _ ih =>
    simp only [List.forall_mem_cons]
    exact and_congr (hPQ _ _ hxy) ih

end Except

/-! ## 2. One step for each searched field -/

/-- No two fields of a shape have the same name. -/
def Shape.DistinctNames (s : Shape) : Prop :=
  (s.fields.map (·.name)).Nodup

instance (s : Shape) : Decidable s.DistinctNames :=
  inferInstanceAs (Decidable (s.fields.map (·.name)).Nodup)

theorem Shape.DistinctNames.eq_of_name {s : Shape} (hs : s.DistinctNames) {d e : Field}
    (hd : d ∈ s.fields) (he : e ∈ s.fields) (h : d.name = e.name) : d = e :=
  List.inj_on_of_nodup_map hs hd he h

theorem Shape.mem_searched {s : Shape} {d : Field} :
    d ∈ s.searched ↔ d ∈ s.fields ∧ d.settings.ignore = false := by
  simp [Shape.searched]

section Fields

variable (catalog : Catalog) (model filter : Shape) (overridden : List String) (options : Options)

/-- The step of one filter field. -/
def fieldStep (d : Field) : Except Error Step :=
  (Target.ofField catalog filter model overridden (FieldMatch.all filter model) d).bind fun t =>
    (Criterion.ofTarget options d t).step options filter.name

variable {catalog model filter overridden options}

/-- A field has a step when it has a target and the target a condition. -/
theorem fieldStep_eq_ok_iff {d : Field} {step : Step} :
    fieldStep catalog model filter overridden options d = .ok step ↔
      ∃ t, Target.ofField catalog filter model overridden (FieldMatch.all filter model) d = .ok t ∧
        ∃ condition,
          (Criterion.ofTarget options d t).condition filter.name options = .ok condition ∧
          step = ⟨d.name,
            if d.settings.ignoreIfEmpty.getD options.ignoreIfEmpty then some (.ofType d.type)
            else none, condition⟩ := by
  unfold fieldStep
  refine except_bind_eq_ok_iff.trans (exists_congr fun t => and_congr_right fun _ => ?_)
  unfold Criterion.step
  rw [except_map_eq_ok_iff]
  exact exists_congr fun _ => and_congr_right fun _ => eq_comm

/-- A criterion that reads the model has the condition that its operator makes there, negated if the
    field says so. -/
theorem Criterion.condition_model_eq_ok_iff {d : Field} {side : ModelSide} {name : String}
    {condition : Condition} :
    (Criterion.ofTarget options d (.model side)).condition name options = .ok condition ↔
      ∃ made, side.condition? options.like d.name d.type
          (side.effective d.type d.settings.operator) = some made ∧
        condition = made.negatedIf d.settings.negate := by
  simp only [Criterion.condition, Criterion.ofTarget]
  cases side.condition? options.like d.name d.type (side.effective d.type d.settings.operator) with
  | none => simp
  | some made => simp [eq_comm]

/-- It is refused for its operator alone. -/
theorem Criterion.condition_model_eq_error_iff {d : Field} {side : ModelSide} {name : String}
    {e : Error} :
    (Criterion.ofTarget options d (.model side)).condition name options = .error e ↔
      side.condition? options.like d.name d.type (side.effective d.type d.settings.operator) =
          none ∧
        e = .invalidOperator (side.effective d.type d.settings.operator) name d.name d.type
          side.type := by
  simp only [Criterion.condition, Criterion.ofTarget]
  cases side.condition? options.like d.name d.type (side.effective d.type d.settings.operator) with
  | none => simp [eq_comm]
  | some made => simp

/-- The criteria of a filter are made of its searched fields, each with the target found for it. -/
theorem Criterion.ofShapes_eq_ok_iff {criteria : List Criterion} :
    ofShapes catalog filter model overridden options = .ok criteria ↔
      List.Forall₂ (fun d c => ∃ t, Target.ofField catalog filter model overridden
        (FieldMatch.all filter model) d = .ok t ∧ ofTarget options d t = c)
        filter.searched criteria := by
  unfold ofShapes
  simp only [mapM_eq_ok_iff, except_map_eq_ok_iff]

/-- **A plan is one step for each searched field, in declaration order.** -/
theorem Plan.ofShapes_eq_ok_iff {plan : Plan} :
    Plan.ofShapes catalog model filter overridden options = .ok plan ↔
      plan.model = model.name ∧ plan.filter = filter.name ∧
        List.Forall₂ (fun d step => fieldStep catalog model filter overridden options d = .ok step)
          filter.searched plan.steps := by
  have hpass : ∀ steps : List Step,
      (∃ criteria, Criterion.ofShapes catalog filter model overridden options = .ok criteria ∧
        criteria.mapM (Criterion.step options filter.name) = .ok steps) ↔
        List.Forall₂ (fun d step => fieldStep catalog model filter overridden options d = .ok step)
          filter.searched steps := by
    intro steps
    simp only [Criterion.ofShapes_eq_ok_iff, mapM_eq_ok_iff, forall₂_exists_iff, fieldStep]
    refine iff_of_eq (congrArg (fun R => List.Forall₂ R filter.searched steps) ?_)
    funext d step
    apply propext
    constructor
    · rintro ⟨c, ⟨t, ht, rfl⟩, hc⟩
      exact except_bind_eq_ok_iff.mpr ⟨t, ht, hc⟩
    · intro h
      obtain ⟨t, ht, hc⟩ := except_bind_eq_ok_iff.mp h
      exact ⟨_, ⟨t, ht, rfl⟩, hc⟩
  unfold Plan.ofShapes
  rw [except_bind_eq_ok_iff]
  constructor
  · rintro ⟨criteria, hcriteria, h⟩
    obtain ⟨steps, hsteps, h⟩ := except_bind_eq_ok_iff.mp h
    cases h
    exact ⟨rfl, rfl, (hpass steps).mp ⟨criteria, hcriteria, hsteps⟩⟩
  · rintro ⟨hm, hf, h⟩
    obtain ⟨criteria, hcriteria, hsteps⟩ := (hpass plan.steps).mpr h
    refine ⟨criteria, hcriteria, except_bind_eq_ok_iff.mpr ⟨plan.steps, hsteps, ?_⟩⟩
    rw [← hm, ← hf]
    rfl

/-! ## 3. Where a field searches -/

/-- The path a filter field searches at: the one it declares, else its own name. -/
def Field.modelPath? (d : Field) : Option Path :=
  match d.settings.path with
  | some text => Path.parse? text
  | none => some (.single d.name)

/-- What a model side says about the value it reads is declared: its path is the one the field
    searches at, its type is found there, and it knows whether the value can be absent. -/
structure ModelSide.Declared (catalog : Catalog) (model : Shape) (d : Field) (side : ModelSide) :
    Prop where
  path : d.modelPath? = some side.path
  declared : ∃ crossed, Path.follow? catalog model side.path.segments = some (side.type, crossed) ∧
    side.nullable = (crossed || side.type.isOptional)

/-- **A model side reads the model for a filter field**: its path is the field's, its type is the
    one declared there, and what it says about the fit and about absent values is true of them. -/
structure ModelSide.Reads (catalog : Catalog) (model : Shape) (d : Field) (side : ModelSide) :
    Prop where
  path : d.modelPath? = some side.path
  declared : ∃ crossed, Path.follow? catalog model side.path.segments = some (side.type, crossed) ∧
    side.nullable = (crossed || side.type.isOptional)
  fit : side.fit = Fit.ofTypes? d.type side.type
  /-- Only a null check does without a fit. -/
  fits : side.fit = none → d.settings.operator.isNullCheck = true

/-- A declared path that is resolved is followed through the shapes. -/
theorem Path.resolve?_eq_some {text : String} {r : Path.Resolved}
    (h : Path.resolve? catalog model text = some r) :
    Path.parse? text = some r.path ∧
      Path.follow? catalog model r.path.segments = some (r.type, r.throughOptional) := by
  unfold Path.resolve? at h
  obtain ⟨path, hpath, h⟩ := Option.bind_eq_some_iff.mp h
  obtain ⟨⟨type, crossed⟩, hfollow, h⟩ := Option.bind_eq_some_iff.mp h
  cases h
  exact ⟨hpath, hfollow⟩

theorem Target.atPath_ok {d : Field} {text : String} {t : Target} (hd : d.settings.path = some text)
    (h : Target.atPath catalog filter model d text = .ok t) :
    ∃ side, t = .model side ∧ side.Reads catalog model d := by
  unfold Target.atPath at h
  split at h
  · cases h
  · rename_i r hr
    obtain ⟨hparse, hfollow⟩ := Path.resolve?_eq_some hr
    simp only at h
    split at h
    · cases h
    · rename_i hfit
      cases h
      refine ⟨_, rfl, ?_, ⟨r.throughOptional, hfollow, rfl⟩, rfl, ?_⟩
      · simp only [Field.modelPath?, hd, hparse]
      · intro hnone
        have hnone : Fit.ofTypes? d.type r.type = none := hnone
        rw [hnone] at hfit
        simpa using hfit

/-- The match of a field is made from the model field of its name. -/
theorem FieldMatch.ofField?_eq_some {d : Field} {m : FieldMatch}
    (h : FieldMatch.ofField? model d = some m) :
    ∃ target fit, model.field? d.name = some target ∧ Fit.ofTypes? d.type target.type = some fit ∧
      m = ⟨d.name, .single target.name, target.type, fit⟩ := by
  unfold FieldMatch.ofField? at h
  obtain ⟨target, htarget, h⟩ := Option.bind_eq_some_iff.mp h
  obtain ⟨fit, hfit, h⟩ := Option.bind_eq_some_iff.mp h
  cases h
  exact ⟨target, fit, htarget, hfit, rfl⟩

/-- The match found under a name, whichever field it was made for, is made with the model field of
    that name. -/
theorem FieldMatch.find?_all_target {name : String} {m : FieldMatch}
    (h : FieldMatch.find? (FieldMatch.all filter model) name = some m) :
    ∃ target fit, model.field? name = some target ∧
      m = ⟨name, .single target.name, target.type, fit⟩ := by
  have hname : m.field = name := by simpa using List.find?_some h
  obtain ⟨e, _, hm⟩ := List.mem_filterMap.mp (List.mem_of_find?_eq_some h)
  obtain ⟨target, fit, htarget, _, rfl⟩ := FieldMatch.ofField?_eq_some hm
  have hname : e.name = name := hname
  subst hname
  exact ⟨target, fit, htarget, rfl⟩

/-- **Under distinct names the match found for a field is its own.** -/
theorem FieldMatch.find?_all {d : Field} {m : FieldMatch} (hn : filter.DistinctNames)
    (hd : d ∈ filter.fields) (h : FieldMatch.find? (FieldMatch.all filter model) d.name = some m) :
    FieldMatch.ofField? model d = some m := by
  have hname : m.field = d.name := by simpa using List.find?_some h
  obtain ⟨e, he, hm⟩ := List.mem_filterMap.mp (List.mem_of_find?_eq_some h)
  obtain ⟨target, fit, _, _, hfield⟩ := FieldMatch.ofField?_eq_some hm
  have hed : e.name = d.name := by rw [← hname, hfield]
  rw [← hn.eq_of_name (List.mem_filter.mp he).1 hd hed]
  exact hm

/-- A field that declares no path reads the model field of its name. -/
theorem ModelSide.declared_single {d target : Field} {fit : Option Fit}
    (hpath : d.settings.path = none) (htarget : model.field? d.name = some target) :
    ModelSide.Declared catalog model d
      ⟨.single target.name, target.type, fit, target.type.isOptional⟩ := by
  have hname : target.name = d.name := Shape.field?_name htarget
  refine ⟨?_, false, ?_, by simp⟩
  · simp only [Field.modelPath?, hpath, hname]
  · simp only [Path.single, Path.follow?, hname, htarget, Option.map_some]

/-- A model field of the same name is read at the path of that name. -/
theorem ModelSide.reads_single {d target : Field} {fit : Option Fit}
    (hpath : d.settings.path = none) (htarget : model.field? d.name = some target)
    (hfit : fit = Fit.ofTypes? d.type target.type)
    (hfits : fit = none → d.settings.operator.isNullCheck = true) :
    ModelSide.Reads catalog model d
      ⟨.single target.name, target.type, fit, target.type.isOptional⟩ :=
  have hdeclared := declared_single hpath htarget
  ⟨hdeclared.path, hdeclared.declared, hfit, hfits⟩

/-- **Everything that can become of the search for a target.** The match that is found for a name
    may be that of another field of the name. -/
theorem Target.ofField_cases {d : Field} {x : Except Error Target}
    (h : Target.ofField catalog filter model overridden (FieldMatch.all filter model) d = x) :
    (d.name ∈ overridden ∧ x = .ok .override) ∨
      d.name ∉ overridden ∧
        ((∃ text, d.settings.path = some text ∧ x = atPath catalog filter model d text) ∨
          d.settings.path = none ∧
            ((∃ m, FieldMatch.find? (FieldMatch.all filter model) d.name = some m ∧
                x = .ok (.model ⟨m.path, m.modelType, some m.fit, m.modelType.isOptional⟩)) ∨
              FieldMatch.find? (FieldMatch.all filter model) d.name = none ∧
                ((d.settings.operator.isNullCheck = true ∧ ∃ target,
                    model.field? d.name = some target ∧
                    x = .ok (.model ⟨.single target.name, target.type,
                      Fit.ofTypes? d.type target.type, target.type.isOptional⟩)) ∨
                  (d.settings.operator.isNullCheck = true → model.field? d.name = none) ∧
                    x = .error (.unresolvedCriterion model.name filter.name d.name)))) := by
  unfold Target.ofField at h
  split at h
  · rename_i hover
    exact .inl ⟨by simpa using hover, h.symm⟩
  rename_i hover
  refine .inr ⟨by simpa using hover, ?_⟩
  split at h
  · rename_i text htext
    exact .inl ⟨text, htext, h.symm⟩
  rename_i hpath
  refine .inr ⟨hpath, ?_⟩
  split at h
  · rename_i t hbyName
    obtain ⟨m, hm, rfl⟩ := Option.map_eq_some_iff.mp hbyName
    exact .inl ⟨m, hm, h.symm⟩
  rename_i hbyName
  refine .inr ⟨Option.map_eq_none_iff.mp hbyName, ?_⟩
  split at h
  · rename_i t hcheck
    obtain ⟨hop, hcheck⟩ := Option.ite_none_right_eq_some.mp hcheck
    obtain ⟨target, htarget, rfl⟩ := Option.map_eq_some_iff.mp hcheck
    exact .inl ⟨hop, target, htarget, h.symm⟩
  · rename_i hcheck
    refine .inr ⟨fun hop => ?_, h.symm⟩
    rw [ofNullCheck?, if_pos hop] at hcheck
    exact Option.map_eq_none_iff.mp hcheck

/-- **What a target is**: the registered predicate exactly for the overridden fields, and a reading
    of the model for every other one. -/
theorem Target.ofField_ok {d : Field} {t : Target} (hn : filter.DistinctNames)
    (hd : d ∈ filter.fields)
    (h : Target.ofField catalog filter model overridden (FieldMatch.all filter model) d = .ok t) :
    (d.name ∈ overridden ∧ t = .override) ∨
      (d.name ∉ overridden ∧ ∃ side, t = .model side ∧ side.Reads catalog model d) := by
  rcases ofField_cases h with ⟨hover, heq⟩ | ⟨hover, ⟨text, htext, heq⟩ | ⟨hpath,
    ⟨m, hfound, heq⟩ | ⟨_, ⟨hop, target, htarget, heq⟩ | ⟨_, heq⟩⟩⟩⟩
  · cases heq
    exact .inl ⟨hover, rfl⟩
  · exact .inr ⟨hover, atPath_ok htext heq.symm⟩
  · -- found by name among the matches of the whole filter
    cases heq
    obtain ⟨target, fit, htarget, hfit, rfl⟩ :=
      FieldMatch.ofField?_eq_some (FieldMatch.find?_all hn hd hfound)
    exact .inr ⟨hover, _, rfl, ModelSide.reads_single hpath htarget hfit.symm (by simp)⟩
  · -- a null check, whatever the types
    cases heq
    exact .inr ⟨hover, _, rfl, ModelSide.reads_single hpath htarget rfl fun _ => hop⟩
  · cases heq

/-- **The step of a field**: its condition is the registered predicate or comes from a reading of
    the model for the field, negated if the field says so. -/
theorem fieldStep_ok {d : Field} {step : Step} (hn : filter.DistinctNames)
    (hd : d ∈ filter.fields)
    (h : fieldStep catalog model filter overridden options d = .ok step) :
    step.field = d.name ∧
    step.guard = (if d.settings.ignoreIfEmpty.getD options.ignoreIfEmpty then
      some (Guard.ofType d.type) else none) ∧
    ((d.name ∈ overridden ∧
        step.condition = (Condition.custom d.name).negatedIf d.settings.negate) ∨
      (d.name ∉ overridden ∧ ∃ (side : ModelSide) (condition : Condition),
        side.Reads catalog model d ∧
        side.condition? options.like d.name d.type (side.effective d.type d.settings.operator) =
          some condition ∧
        step.condition = condition.negatedIf d.settings.negate)) := by
  obtain ⟨t, ht, condition, hcondition, rfl⟩ := fieldStep_eq_ok_iff.mp h
  refine ⟨rfl, rfl, ?_⟩
  rcases Target.ofField_ok hn hd ht with ⟨hover, rfl⟩ | ⟨hover, side, rfl, hreads⟩
  · cases hcondition
    exact .inl ⟨hover, rfl⟩
  · obtain ⟨found, hfound, rfl⟩ := Criterion.condition_model_eq_ok_iff.mp hcondition
    exact .inr ⟨hover, side, found, hreads, hfound, rfl⟩

end Fields

/-! ## 4. A worked filter -/

namespace Ticket

/-- Tickets may have an owner, who lives in a city. -/
def model : Shape :=
  ⟨"Ticket",
    [⟨"title", .text, .default⟩, ⟨"tags", .list .text, .default⟩,
      ⟨"votes", .number .u32, .default⟩, ⟨"owner", .optional (.record ⟨"Person"⟩), .default⟩]⟩

/-- A title to find, a tag to leave out, a least number of votes, a city that is compared even when
    it is empty, and a page that is no criterion. -/
def filter : Shape :=
  ⟨"TicketFilter",
    [⟨"title", .text, .default⟩,
      ⟨"tag", .text, ⟨.auto, true, some "tags", false, none⟩⟩,
      ⟨"least", .number .u32, ⟨.greaterOrEqual, false, some "votes", false, none⟩⟩,
      ⟨"city", .optional .text, ⟨.startsWith, false, some "owner.city", false, some false⟩⟩,
      ⟨"page", .number .u32, ⟨.auto, false, none, true, none⟩⟩]⟩

def shapes : List (TypeName × Shape) :=
  [(⟨"Ticket"⟩, model), (⟨"TicketFilter"⟩, filter),
    (⟨"Person"⟩, ⟨"Person", [⟨"city", .text, .default⟩]⟩)]

def catalog : Catalog := Catalog.ofList shapes

end Ticket

end Sift
