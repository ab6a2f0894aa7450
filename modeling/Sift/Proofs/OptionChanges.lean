import Sift.Proofs.Compilation

/-!
# What the compiler options change

Factories with different options may share a cache, so it matters what a plan has from the options
it was made under. This file compares two plans of the same filter over the same model that were
made under any two options:

* `Field.LikesAt` -- a field searches by `like` at a path. This is known from its target, and a
  target is found without a look at the options;
* `fieldStep_eq_error_under_iff` -- nor does an operator make sense under some options only;
* `Field.SameBut` -- two steps of one field are the same, but for the guard where the field leaves
  the emptiness policy to the options, and for the comparison where it searches by `like`;
* `Plan.ofShapes_under_options` -- the main statement.

Names may repeat in the filter.
-/

namespace Sift

/-! ## 1. The modes of `like` -/

/-- The comparison that `like` makes. -/
def LikeMode.comparison : LikeMode → Comparison
  | .ordinal => .contains
  | .caseInsensitive => .containsIgnoreCase

/-- The two modes make different comparisons. -/
theorem LikeMode.comparison_inj {like like' : LikeMode} :
    like.comparison = like'.comparison ↔ like = like' := by
  cases like <;> cases like' <;> decide

/-- A condition is told apart from another one by its comparison, negated or not. -/
theorem Condition.compare_negatedIf_inj {c c' : Comparison} {path : Path} {field : String}
    {negate : Bool} :
    (Condition.compare c path field).negatedIf negate =
      (Condition.compare c' path field).negatedIf negate ↔ c = c' := by
  cases negate <;> simp [Condition.negated]

namespace ModelSide

variable {side : ModelSide} {field : String} {filterType : FieldType} {op : Operator}

/-- The condition of `like` is the comparison of its mode, between two texts. -/
theorem condition?_like (like : LikeMode) :
    side.condition? like field filterType .like =
      if side.scalar filterType && side.type.isText then
        some (.compare like.comparison side.path field) else none := by
  cases like <;> rfl

/-- Every other operator has no regard to the mode. -/
theorem condition?_of_ne_like (like like' : LikeMode) (hop : op ≠ .like) :
    side.condition? like field filterType op = side.condition? like' field filterType op := by
  cases op with
  | like => exact absurd rfl hop
  | _ => rfl

end ModelSide

section Fields

variable (catalog : Catalog) (model filter : Shape) (overridden : List String)

/-! ## 2. One field under two options -/

/-- The field searches the model by `like`, at the path. -/
def Field.LikesAt (d : Field) (path : Path) : Prop :=
  ∃ side : ModelSide,
    Target.ofField catalog filter model overridden (FieldMatch.all filter model) d =
      .ok (.model side) ∧
    side.path = path ∧ side.effective d.type d.settings.operator = .like

/-- **Two steps of one field are the same but for what the options say**: `step` is made under
    `options` and `step'` under `options'`. -/
structure Field.SameBut (options options' : Options) (d : Field) (step step' : Step) : Prop where
  field : step.field = d.name ∧ step'.field = d.name
  /-- Where there is a guard, it is the one of the declared type. -/
  guard : ∀ g, step.guard = some g ∨ step'.guard = some g → g = Guard.ofType d.type
  /-- One of the two is without a guard exactly if the field leaves the emptiness policy to the
      options, and these differ in it. -/
  guard_ne_iff : step.guard ≠ step'.guard ↔
    d.settings.ignoreIfEmpty = none ∧ options.ignoreIfEmpty ≠ options'.ignoreIfEmpty
  /-- The conditions differ exactly if the field searches by `like`, and the modes differ. -/
  condition_ne_iff : step.condition ≠ step'.condition ↔
    (∃ path, d.LikesAt catalog model filter overridden path) ∧ options.like ≠ options'.like
  /-- A field that searches by `like` compares in each mode, at the same place. -/
  likes : ∀ path, d.LikesAt catalog model filter overridden path →
    step.condition =
        (Condition.compare options.like.comparison path d.name).negatedIf d.settings.negate ∧
      step'.condition =
        (Condition.compare options'.like.comparison path d.name).negatedIf d.settings.negate
  /-- A field that names any other operator has one condition under all options. -/
  named : d.settings.operator ≠ .auto → d.settings.operator ≠ .like →
    step.condition = step'.condition

variable {catalog model filter overridden} {options options' : Options} {d : Field}
  {step step' : Step}

/-- A field searches by `like` where its target is, if it does. -/
theorem Field.likesAt_iff {side : ModelSide} {path : Path}
    (ht : Target.ofField catalog filter model overridden (FieldMatch.all filter model) d =
      .ok (.model side)) :
    d.LikesAt catalog model filter overridden path ↔
      side.path = path ∧ side.effective d.type d.settings.operator = .like := by
  constructor
  · rintro ⟨side', ht', hpath, hop⟩
    rw [ht] at ht'
    cases ht'
    exact ⟨hpath, hop⟩
  · rintro ⟨hpath, hop⟩
    exact ⟨side, ht, hpath, hop⟩

/-- An overridden field searches by its predicate, not by `like`. -/
theorem Field.not_likesAt_of_override {path : Path}
    (ht : Target.ofField catalog filter model overridden (FieldMatch.all filter model) d =
      .ok .override) : ¬ d.LikesAt catalog model filter overridden path := by
  rintro ⟨side, ht', _⟩
  rw [ht] at ht'
  cases ht'

/-- A field that searches by `like` names it, or names no operator. -/
theorem Field.LikesAt.operator {path : Path} (h : d.LikesAt catalog model filter overridden path) :
    d.settings.operator = .auto ∨ d.settings.operator = .like := by
  obtain ⟨side, _, _, hop⟩ := h
  cases hnamed : d.settings.operator with
  | auto => exact .inl rfl
  | like => exact .inr rfl
  | _ =>
    rw [hnamed] at hop
    cases hop

/-- **A field is refused a step under all options or under none**, and for the same reason. -/
theorem fieldStep_eq_error_under_iff {e : Error} :
    fieldStep catalog model filter overridden options d = .error e ↔
      fieldStep catalog model filter overridden options' d = .error e := by
  have hsense : ∀ side : ModelSide,
      side.condition? options.like d.name d.type (side.effective d.type d.settings.operator) =
          none ↔
        side.condition? options'.like d.name d.type
          (side.effective d.type d.settings.operator) = none := by
    intro side
    by_cases hop : side.effective d.type d.settings.operator = .like
    · rw [hop, ModelSide.condition?_like, ModelSide.condition?_like]
      split <;> simp
    · rw [ModelSide.condition?_of_ne_like options.like options'.like hop]
  simp only [fieldStep_eq_error_iff_ofField, hsense]

/-- **The condition of a target under two options.** -/
theorem Criterion.condition_under {t : Target} {condition condition' : Condition}
    (ht : Target.ofField catalog filter model overridden (FieldMatch.all filter model) d = .ok t)
    (hc : (Criterion.ofTarget options d t).condition filter.name options = .ok condition)
    (hc' : (Criterion.ofTarget options' d t).condition filter.name options' = .ok condition') :
    ((∀ path, ¬ d.LikesAt catalog model filter overridden path) ∧ condition = condition') ∨
      ∃ path, (∀ path', d.LikesAt catalog model filter overridden path' ↔ path' = path) ∧
        condition =
          (Condition.compare options.like.comparison path d.name).negatedIf d.settings.negate ∧
        condition' =
          (Condition.compare options'.like.comparison path d.name).negatedIf d.settings.negate := by
  cases t with
  | override =>
    cases hc
    cases hc'
    exact .inl ⟨fun path => Field.not_likesAt_of_override ht, rfl⟩
  | model side =>
    obtain ⟨made, hmade, rfl⟩ := Criterion.condition_model_eq_ok_iff.mp hc
    obtain ⟨made', hmade', rfl⟩ := Criterion.condition_model_eq_ok_iff.mp hc'
    by_cases hop : side.effective d.type d.settings.operator = .like
    · rw [hop, ModelSide.condition?_like] at hmade hmade'
      obtain ⟨_, hmade⟩ := Option.ite_none_right_eq_some.mp hmade
      obtain ⟨_, hmade'⟩ := Option.ite_none_right_eq_some.mp hmade'
      cases hmade
      cases hmade'
      refine .inr ⟨side.path, fun path' => ?_, rfl, rfl⟩
      rw [Field.likesAt_iff ht, and_iff_left hop, eq_comm]
    · rw [ModelSide.condition?_of_ne_like options.like options'.like hop, hmade'] at hmade
      cases hmade
      exact .inl ⟨fun path hlikes => hop ((Field.likesAt_iff ht).mp hlikes).2, rfl⟩

/-- Where a field has a guard, the policy has no say in which. -/
theorem Field.guard_eq {policy : Bool} {g g' : Guard}
    (h : (if d.settings.ignoreIfEmpty.getD policy then some g else none) = some g') : g' = g := by
  obtain ⟨_, hguard⟩ := Option.ite_none_right_eq_some.mp h
  exact (Option.some.inj hguard).symm

/-- The guard of a field under two policies. -/
theorem Field.guard_ne_iff {policy policy' : Bool} {g : Guard} :
    (if d.settings.ignoreIfEmpty.getD policy then some g else none) ≠
        (if d.settings.ignoreIfEmpty.getD policy' then some g else none) ↔
      d.settings.ignoreIfEmpty = none ∧ policy ≠ policy' := by
  cases d.settings.ignoreIfEmpty with
  | some own => simp
  | none => cases policy <;> cases policy' <;> simp

/-- **The two steps of a field under two options.** -/
theorem Field.sameBut_of_fieldStep
    (h : fieldStep catalog model filter overridden options d = .ok step)
    (h' : fieldStep catalog model filter overridden options' d = .ok step') :
    d.SameBut catalog model filter overridden options options' step step' := by
  obtain ⟨t, ht, condition, hc, rfl⟩ := fieldStep_eq_ok_iff.mp h
  obtain ⟨t', ht', condition', hc', rfl⟩ := fieldStep_eq_ok_iff.mp h'
  rw [ht] at ht'
  cases ht'
  refine ⟨⟨rfl, rfl⟩, fun g hg => hg.elim guard_eq guard_eq, guard_ne_iff, ?differ, ?likes, ?named⟩
  case differ =>
    show condition ≠ condition' ↔ _
    rcases Criterion.condition_under ht hc hc' with ⟨hnever, rfl⟩ | ⟨path, hlikes, rfl, rfl⟩
    · constructor
      · exact fun hne => absurd rfl hne
      · rintro ⟨⟨path, hpath⟩, _⟩
        exact absurd hpath (hnever path)
    · have hpath := (hlikes path).mpr rfl
      rw [Ne, Condition.compare_negatedIf_inj, LikeMode.comparison_inj]
      exact (and_iff_right ⟨path, hpath⟩).symm
  case likes =>
    intro path' hpath'
    rcases Criterion.condition_under ht hc hc' with ⟨hnever, rfl⟩ | ⟨path, hlikes, rfl, rfl⟩
    · exact absurd hpath' (hnever path')
    · obtain rfl := (hlikes path').mp hpath'
      exact ⟨rfl, rfl⟩
  case named =>
    intro hauto hlike
    rcases Criterion.condition_under ht hc hc' with ⟨_, rfl⟩ | ⟨path, hlikes, rfl, rfl⟩
    · rfl
    · have hpath := (hlikes path).mpr rfl
      exact absurd hpath.operator (not_or.mpr ⟨hauto, hlike⟩)

/-! ## 3. Plans under two options -/

/-- Partners of one list in two others are partners in both at once. -/
theorem forall₂_zip {α β γ : Type} {R : α → β → Prop} {S : α → γ → Prop} {xs : List α}
    {ys : List β} {zs : List γ} (hR : List.Forall₂ R xs ys) (hS : List.Forall₂ S xs zs) :
    List.Forall₂ (fun x pair => R x pair.1 ∧ S x pair.2) xs (ys.zip zs) := by
  induction hR generalizing zs with
  | nil => exact .nil
  | cons hxy _ ih =>
    cases hS with
    | cons hxz hS => exact .cons ⟨hxy, hxz⟩ (ih hS)

/-- The steps of a plan are named for the searched fields, also where names repeat. -/
theorem Plan.map_field_steps {plan : Plan}
    (h : ofShapes catalog model filter overridden options = .ok plan) :
    plan.steps.map (·.field) = filter.searched.map (·.name) := by
  obtain ⟨_, _, hsteps⟩ := ofShapes_eq_ok_iff.mp h
  rw [← List.forall₂_eq_eq_eq, List.forall₂_map_left_iff, List.forall₂_map_right_iff]
  refine hsteps.flip.imp fun step d hstep => ?_
  obtain ⟨_, _, _, _, rfl⟩ := fieldStep_eq_ok_iff.mp hstep
  rfl

/-- **A plan is refused under all options or under none**, and for the same reason. -/
theorem Plan.ofShapes_eq_error_under_iff {e : Error} :
    ofShapes catalog model filter overridden options = .error e ↔
      ofShapes catalog model filter overridden options' = .error e := by
  rw [ofShapes_eq_error_iff_fieldStep, ofShapes_eq_error_iff_fieldStep]
  refine or_congr_right (and_congr_right fun _ => ?_)
  exact firstOf_congr (List.forall₂_same.mpr fun d _ e => fieldStep_eq_error_under_iff)

/-- A filter has a plan under all options or under none. -/
theorem Plan.ofShapes_isOk_under_iff :
    (∃ plan, ofShapes catalog model filter overridden options = .ok plan) ↔
      ∃ plan, ofShapes catalog model filter overridden options' = .ok plan := by
  -- there is a plan where there is no error
  have hok : ∀ options, (∃ plan, ofShapes catalog model filter overridden options = .ok plan) ↔
      ∀ e, ofShapes catalog model filter overridden options ≠ .error e := by
    intro options
    cases ofShapes catalog model filter overridden options <;> simp
  rw [hok, hok]
  exact forall_congr' fun e => not_congr ofShapes_eq_error_under_iff

/-- **A filter compiles under all options or under none.** -/
theorem Specification.compile_isOk_under_iff {o : Overrides} :
    (∃ s, compile catalog model filter o options = .ok s) ↔
      ∃ s, compile catalog model filter o options' = .ok s := by
  rw [compile_isOk_iff_ofShapes, compile_isOk_iff_ofShapes]
  exact Plan.ofShapes_isOk_under_iff

end Fields

/-- **The options change only what they name.** For any shapes, overridden fields and two options:
    there is a plan under the one exactly if there is one under the other, and if not the error is
    the same. The two plans have the steps of the same fields in the same order, and the two steps of
    a field are the same but for a guard that the field leaves to the options and for the comparison
    of a field that searches by `like`. -/
theorem Plan.ofShapes_under_options (catalog : Catalog) (model filter : Shape)
    (overridden : List String) (options options' : Options) :
    ((∃ plan, ofShapes catalog model filter overridden options = .ok plan) ↔
      ∃ plan, ofShapes catalog model filter overridden options' = .ok plan) ∧
    (∀ e, ofShapes catalog model filter overridden options = .error e ↔
      ofShapes catalog model filter overridden options' = .error e) ∧
    ∀ plan plan', ofShapes catalog model filter overridden options = .ok plan →
      ofShapes catalog model filter overridden options' = .ok plan' →
      plan.model = plan'.model ∧ plan.filter = plan'.filter ∧
      plan.steps.map (·.field) = plan'.steps.map (·.field) ∧
      List.Forall₂ (fun d steps =>
          d.SameBut catalog model filter overridden options options' steps.1 steps.2)
        filter.searched (plan.steps.zip plan'.steps) := by
  refine ⟨ofShapes_isOk_under_iff, fun e => ofShapes_eq_error_under_iff, ?same⟩
  case same =>
    intro plan plan' hplan hplan'
    have hnames := (map_field_steps hplan).trans (map_field_steps hplan').symm
    obtain ⟨hmodel, hfilter, hsteps⟩ := ofShapes_eq_ok_iff.mp hplan
    obtain ⟨hmodel', hfilter', hsteps'⟩ := ofShapes_eq_ok_iff.mp hplan'
    refine ⟨hmodel.trans hmodel'.symm, hfilter.trans hfilter'.symm, hnames, ?_⟩
    exact (forall₂_zip hsteps hsteps').imp fun d steps h =>
      Field.sameBut_of_fieldStep h.1 h.2

namespace Ticket

/-- Empty values are searched for, and case is ignored. -/
def thorough : Options := ⟨false, .caseInsensitive⟩

/-- The worked filter under the standard options and under thorough ones: the title, which is found
    by `like`, is compared in the other mode and without its guard. The city says for itself that it
    begins with a text and has no guard, so its step is the same. -/
theorem ofShapes_under_options_title : ∃ title tag least city title' tag' least' city',
    Plan.ofShapes catalog model filter [] .default =
      .ok ⟨"Ticket", "TicketFilter", [title, tag, least, city]⟩ ∧
    Plan.ofShapes catalog model filter [] thorough =
      .ok ⟨"Ticket", "TicketFilter", [title', tag', least', city']⟩ ∧
    title.guard ≠ title'.guard ∧ title.condition ≠ title'.condition ∧
    city.guard = city'.guard ∧ city.condition = city'.condition := by
  refine ⟨_, _, _, _, _, _, _, _, rfl, rfl, ?_⟩
  obtain ⟨-, -, hsame⟩ := Plan.ofShapes_under_options catalog model filter [] .default thorough
  obtain ⟨-, -, -, hsteps⟩ := hsame _ _ rfl rfl
  obtain ⟨htitle, hrest⟩ := List.forall₂_cons.mp hsteps
  obtain ⟨-, hrest⟩ := List.forall₂_cons.mp hrest
  obtain ⟨-, hrest⟩ := List.forall₂_cons.mp hrest
  obtain ⟨hcity, -⟩ := List.forall₂_cons.mp hrest
  refine ⟨htitle.guard_ne_iff.mpr ⟨rfl, by decide⟩, ?title, ?guard, ?city⟩
  case title => exact htitle.condition_ne_iff.mpr ⟨⟨_, _, rfl, rfl, rfl⟩, by decide⟩
  case guard =>
    by_contra hne
    obtain ⟨hleft, -⟩ := hcity.guard_ne_iff.mp hne
    cases hleft
  case city => exact hcity.named (by decide) (by decide)

end Ticket

end Sift
