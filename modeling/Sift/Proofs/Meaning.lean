import Mathlib.Logic.Basic
import Sift.Proofs.Evaluation
import Sift.Proofs.Fits
import Sift.Proofs.Operators
import Sift.Proofs.Registration

/-!
# What a compiled filter means

A filter is compiled in passes: fields are matched, targets and operators found, negations taken
together, conditions carried over into tests. This file says what comes out of it all without
speaking of any pass, field by field:

* `Operator.Relates` -- what an operator asks of a model value and a filter value, by the texts,
  orders and elements themselves;
* `Field.operatorAgainst` -- the operator a field searches with, its own or the one the two types
  ask for;
* `Field.Holds` -- what a field asks of a record, before its negation;
* `Specification.holds_compile_iff` -- a record passes a compiled specification exactly when every
  searched field is either left empty, under the emptiness policy, or holds up to its negation.
-/

namespace Sift

/-! ## 1. Tests on two values -/

namespace Value

/-- Two texts that stand in a relation. -/
def Texts (R : String → String → Prop) (m v : Value) : Prop :=
  ∃ s t, m = .text s ∧ v = .text t ∧ R s t

/-- A list with an element that is the same as the value. -/
def HasElement (collection v : Value) : Prop :=
  ∃ items, collection = .list items ∧ ∃ x ∈ items, x.sameAs v = true

end Value

/-- Membership between a model value and a filter value. The side with more lists around its base is
    the collection; of two collections with as many lists an element has to be common. -/
def Member (filterType modelType : FieldType) (m v : Value) : Prop :=
  if modelType.layers < filterType.layers then v.HasElement m
  else if filterType.layers < modelType.layers then m.HasElement v
  else ∃ items, v = .list items ∧ ∃ y ∈ items, m.HasElement y

/-- What an operator asks of the model value `m` and the filter value `v`. -/
def Operator.Relates (like : LikeMode) (filterType modelType : FieldType) (m v : Value) :
    Operator → Prop
  | .auto => False
  | .equal => m.sameAs v = true
  | .notEqual => ¬ m.sameAs v = true
  | .greaterThan => m.compare? v = some .gt
  | .greaterOrEqual => m.compare? v = some .gt ∨ m.compare? v = some .eq
  | .lessThan => m.compare? v = some .lt
  | .lessOrEqual => m.compare? v = some .lt ∨ m.compare? v = some .eq
  | .like =>
    match like with
    | .ordinal => Value.Texts (fun s t => t.toList <:+: s.toList) m v
    | .caseInsensitive =>
      Value.Texts (fun s t => (Text.lower t).toList <:+: (Text.lower s).toList) m v
  | .contains => Value.Texts (fun s t => t.toList <:+: s.toList) m v
  | .startsWith => Value.Texts (fun s t => t.toList <+: s.toList) m v
  | .endsWith => Value.Texts (fun s t => t.toList <:+ s.toList) m v
  | .isIn => Member filterType modelType m v
  | .isNull => m = .absent
  | .isNotNull => m ≠ .absent

namespace Comparison

variable {m v : Value}

theorem onText_eq_true_iff {test : String → String → Bool} {R : String → String → Prop}
    (h : ∀ s t, test s t = true ↔ R s t) : onText test m v = true ↔ Value.Texts R m v := by
  constructor
  · intro ht
    unfold onText at ht
    split at ht
    · rename_i s t
      exact ⟨s, t, rfl, rfl, (h s t).mp ht⟩
    · cases ht
  · rintro ⟨s, t, rfl, rfl, hR⟩
    exact (h s t).mpr hR

/-- A value has an element when it is a list that has one. -/
theorem list?_any_hasSame_iff {c : Value} :
    (c.list?.any fun items => hasSame items v) = true ↔ c.HasElement v := by
  unfold Value.HasElement
  rw [Option.any_eq_true]
  refine exists_congr fun items => and_congr ?_ List.any_eq_true
  cases c <;> simp [Value.list?]

theorem eval_overlaps_iff : overlaps.eval m v = true ↔
    ∃ items, v = .list items ∧ ∃ y ∈ items, m.HasElement y := by
  constructor
  · intro h
    simp only [eval] at h
    split at h
    · rename_i left right
      simp only [List.any_eq_true] at h
      obtain ⟨x, hx, y, hy, hxy⟩ := h
      exact ⟨right, rfl, y, hy, left, rfl, x, hx, hxy⟩
    · cases h
  · rintro ⟨right, rfl, y, hy, left, rfl, x, hx, hxy⟩
    simp only [eval, List.any_eq_true]
    exact ⟨x, hx, y, hy, hxy⟩

/-- The comparison of a membership tests the membership of the declared types. -/
theorem eval_membership_iff {side : ModelSide} {filterType : FieldType} {c : Comparison}
    (hfit : side.fit = Fit.ofTypes? filterType side.type)
    (h : side.membership? filterType = some c) :
    c.eval m v = true ↔ Member filterType side.type m v := by
  unfold ModelSide.membership? at h
  unfold Member
  cases hk : side.fit with
  | none => simp [hk] at h
  | some k =>
    have hlayers := Fit.layers_of_ofTypes? (hfit.symm.trans hk)
    rw [hk] at h
    cases k with
    | anyOf n =>
      cases h
      rw [if_pos (by simp only at hlayers; omega)]
      exact list?_any_hasSame_iff
    | includes n =>
      cases h
      simp only at hlayers
      rw [if_neg (by omega), if_pos (by omega)]
      exact list?_any_hasSame_iff
    | identical =>
      simp only at h hlayers
      split at h
      · cases h
        rw [if_neg (by omega), if_neg (by omega)]
        exact eval_overlaps_iff
      · cases h
    | nullable =>
      simp only at h hlayers
      split at h
      · cases h
        rw [if_neg (by omega), if_neg (by omega)]
        exact eval_overlaps_iff
      · cases h

end Comparison

/-! ## 2. Operators -/

/-- The operator a field searches a type with. Left to be inferred it is membership between a list
    and its elements and between lists, `like` for text, and equality for the rest. -/
def Field.operatorAgainst (d : Field) (modelType : FieldType) : Operator :=
  match d.settings.operator with
  | .auto =>
    if d.type.layers ≠ modelType.layers ∨
        (d.type.element?.isSome = true ∧ modelType.element?.isSome = true) then .isIn
    else if d.type.isText then .like
    else .equal
  | op => op

namespace ModelSide

variable {catalog : Catalog} {model : Shape} {side : ModelSide} {d : Field}

/-- **The operator that is carried out is the one the field searches with.** -/
theorem effective_eq (hr : side.Reads catalog model d) :
    side.effective d.type d.settings.operator = d.operatorAgainst side.type := by
  unfold effective Field.operatorAgainst
  cases hop : d.settings.operator with
  | auto =>
    obtain ⟨k, hk⟩ : ∃ k, side.fit = some k := by
      cases hk : side.fit with
      | some k => exact ⟨k, rfl⟩
      | none =>
        have h := hr.fits hk
        rw [hop] at h
        cases h
    have hlayers := Fit.layers_of_ofTypes? (hr.fit.symm.trans hk)
    simp only [inferred, bothLists, hk, Option.any_some, Bool.or_eq_true, Bool.and_eq_true]
    refine if_congr ?_ rfl rfl
    cases k with
    | identical => simp [Fit.isMembership, show d.type.layers = side.type.layers from hlayers]
    | nullable => simp [Fit.isMembership, show d.type.layers = side.type.layers from hlayers]
    | anyOf n =>
      simp only at hlayers
      simp [Fit.isMembership, show d.type.layers ≠ side.type.layers by omega]
    | includes n =>
      simp only at hlayers
      simp [Fit.isMembership, show d.type.layers ≠ side.type.layers by omega]
  | _ => rfl

/-- The comparison an operator makes tests what the operator asks for, up to its negation. -/
theorem eval_of_made? {like : LikeMode} {filterType : FieldType} {op : Operator} {cmp : Comparison}
    {m v : Value} (hfit : side.fit = Fit.ofTypes? filterType side.type)
    (h : side.made? like filterType op = some cmp) :
    (op.isNegative ^^ cmp.eval m v) = true ↔ op.Relates like filterType side.type m v := by
  have positive : ∀ {b : Bool} {P : Prop}, (b = true ↔ P) → ((false ^^ b) = true ↔ P) := by
    intro b P hP
    rwa [Bool.false_xor]
  cases op with
  | auto => cases h
  | isNull => cases h
  | isNotNull => cases h
  | equal =>
    cases h
    exact positive Iff.rfl
  | notEqual =>
    cases h
    simp [Operator.isNegative, Comparison.eval, Operator.Relates]
  | greaterThan =>
    cases h
    exact positive beq_iff_eq
  | lessThan =>
    cases h
    exact positive beq_iff_eq
  | greaterOrEqual =>
    cases h
    refine positive ?_
    rcases hc : m.compare? v with _ | _ | _ | _ <;> simp [Comparison.eval, Operator.Relates, hc]
  | lessOrEqual =>
    cases h
    refine positive ?_
    rcases hc : m.compare? v with _ | _ | _ | _ <;> simp [Comparison.eval, Operator.Relates, hc]
  | isIn => exact positive (Comparison.eval_membership_iff hfit h)
  | contains =>
    cases h
    exact positive (Comparison.onText_eq_true_iff fun _ _ => Text.contains_eq_true_iff)
  | startsWith =>
    cases h
    exact positive (Comparison.onText_eq_true_iff fun _ _ => List.isPrefixOf_iff_prefix)
  | endsWith =>
    cases h
    exact positive (Comparison.onText_eq_true_iff fun _ _ => List.isSuffixOf_iff_suffix)
  | like =>
    cases like with
    | ordinal =>
      cases h
      exact positive (Comparison.onText_eq_true_iff fun _ _ => Text.contains_eq_true_iff)
    | caseInsensitive =>
      cases h
      exact positive (Comparison.onText_eq_true_iff fun _ _ => Text.contains_eq_true_iff)

/-- **The condition of an operator is true of what the operator asks for.** -/
theorem eval_of_condition? {like : LikeMode} {field : String} {filterType : FieldType}
    {op : Operator} {c : Condition} {overrides : Overrides} {r f : Record}
    (hfit : side.fit = Fit.ofTypes? filterType side.type)
    (h : side.condition? like field filterType op = some c) :
    c.eval overrides r f = true ↔
      op.Relates like filterType side.type (side.path.access r) (f.get field) := by
  rcases condition?_cases h with ⟨hop, _, rfl⟩ | ⟨cmp, hmade, _, rfl⟩
  · rw [Condition.eval_negatedIf]
    have habsent : (side.path.access r).isAbsent = true ↔ side.path.access r = .absent := by
      cases side.path.access r <;> simp [Value.isAbsent]
    cases op with
    | isNull => simpa [Operator.isNegative, Condition.eval, Operator.Relates] using habsent
    | isNotNull =>
      simpa [Operator.isNegative, Condition.eval, Operator.Relates] using not_congr habsent
    | _ => cases hop
  · rw [Condition.eval_negatedIf]
    exact eval_of_made? hfit hmade

end ModelSide

/-! ## 3. Filters -/

/-- What a field asks of a record, before its negation: the predicate registered for it, else what
    its operator asks of the value at its path. -/
def Field.Holds (catalog : Catalog) (model : Shape) (options : Options)
    (registered : Option Predicate) (d : Field) (r f : Record) : Prop :=
  match registered with
  | some p => p r f = true
  | none => ∃ path type crossed, d.modelPath? = some path ∧
      Path.follow? catalog model path.segments = some (type, crossed) ∧
      (d.operatorAgainst type).Relates options.like d.type type (path.access r) (f.get d.name)

variable {catalog : Catalog} {model filter : Shape} {options : Options}

/-- A reading of the model settles what a field without a predicate asks. -/
theorem ModelSide.Reads.holds_iff {side : ModelSide} {d : Field}
    (hr : side.Reads catalog model d) (r f : Record) :
    d.Holds catalog model options none r f ↔
      (d.operatorAgainst side.type).Relates options.like d.type side.type (side.path.access r)
        (f.get d.name) := by
  obtain ⟨crossed, hfollow, _⟩ := hr.declared
  constructor
  · rintro ⟨path, type, crossed', hpath, hfollow', h⟩
    rw [hr.path] at hpath
    cases hpath
    rw [hfollow] at hfollow'
    cases hfollow'
    exact h
  · intro h
    exact ⟨side.path, side.type, crossed, hr.path, hfollow, h⟩

/-- **The condition of a field's step holds exactly when the field does, up to its negation.** -/
theorem eval_of_fieldStep {overrides : Overrides} {d : Field} {step : Step}
    (hn : filter.DistinctNames) (hd : d ∈ filter.fields)
    (h : fieldStep catalog model filter overrides.fields options d = .ok step) (r f : Record) :
    step.condition.eval overrides r f = true ↔
      Xor (d.settings.negate = true)
        (d.Holds catalog model options (overrides.get? d.name) r f) := by
  have turned : ∀ (c : Condition) (P : Prop), (c.eval overrides r f = true ↔ P) →
      ((c.negatedIf d.settings.negate).eval overrides r f = true ↔
        Xor (d.settings.negate = true) P) := by
    intro c P hP
    rw [Condition.eval_negatedIf, ← hP]
    cases d.settings.negate <;> cases c.eval overrides r f <;> simp [Xor]
  have hover : d.name ∈ overrides.fields ↔ (overrides.get? d.name).isSome = true :=
    Overrides.mem_fields_iff
  obtain ⟨_, _, ⟨hin, hc⟩ | ⟨hout, side, condition, hr, hcondition, hc⟩⟩ := fieldStep_ok hn hd h
  · obtain ⟨p, hp⟩ := Option.isSome_iff_exists.mp (hover.mp hin)
    rw [hc, hp]
    exact turned _ _ (by simp [Condition.eval, hp, Field.Holds])
  · have hnone : overrides.get? d.name = none := by
      rw [← Option.not_isSome_iff_eq_none, ← hover]
      exact hout
    rw [ModelSide.effective_eq hr] at hcondition
    rw [hc, hnone]
    exact turned _ _
      ((ModelSide.eval_of_condition? hr.fit hcondition).trans (hr.holds_iff r f).symm)

/-- A step counts unless the emptiness policy is in force for its field and the value is empty. -/
theorem admits_of_fieldStep {overrides : Overrides} {d : Field} {step : Step}
    (hn : filter.DistinctNames) (hd : d ∈ filter.fields)
    (h : fieldStep catalog model filter overrides.fields options d = .ok step) (f : Record) :
    step.admits f = false ↔
      d.settings.ignoreIfEmpty.getD options.ignoreIfEmpty = true ∧
        (Guard.ofType d.type).admits (f.get d.name) = false := by
  obtain ⟨hfield, hguard, _⟩ := fieldStep_ok hn hd h
  rw [Step.admits_eq hguard, hfield, Bool.or_eq_false_iff, Bool.not_eq_false']

/-- **The meaning of a compiled filter.** A record passes exactly when every searched field of the
    filter was left empty, under the emptiness policy, or holds of the record up to its negation.
    The predicate of a field is the one registered last, by `regs` or before them. -/
theorem Specification.holds_compile_iff {before : Overrides} {regs : List Registration}
    {s : Specification} (hn : filter.DistinctNames)
    (hc : Specification.compile catalog model filter (before.registerAll filter regs) options =
      .ok s) (r f : Record) :
    s.holds r f = true ↔ ∀ d ∈ filter.fields, d.settings.ignore = false →
      (d.settings.ignoreIfEmpty.getD options.ignoreIfEmpty = true ∧
        (Guard.ofType d.type).admits (f.get d.name) = false) ∨
      Xor (d.settings.negate = true)
        (d.Holds catalog model options (Overrides.last? filter before regs d.name) r f) := by
  obtain ⟨plan, hplan, _, hholds⟩ := Specification.compile_ok hc
  obtain ⟨_, _, hsteps⟩ := Plan.ofShapes_eq_ok_iff.mp hplan
  -- the fields stay known as fields of the filter while the two lists are gone through together
  have hpairs := (List.forall₂_and_left (filter.searched) plan.steps).mpr
    ⟨fun d hd => (Shape.mem_searched.mp hd).1, hsteps⟩
  rw [hholds, ← forall_mem_congr hpairs (P := fun d =>
    (d.settings.ignoreIfEmpty.getD options.ignoreIfEmpty = true ∧
        (Guard.ofType d.type).admits (f.get d.name) = false) ∨
      Xor (d.settings.negate = true)
        (d.Holds catalog model options (Overrides.last? filter before regs d.name) r f))]
  · simp only [Shape.mem_searched, and_imp]
  · rintro d step ⟨hd, hstep⟩
    rw [← admits_of_fieldStep hn hd hstep, ← Overrides.get?_registerAll,
      ← eval_of_fieldStep hn hd hstep]
    cases step.admits f <;> simp

/-- The meaning of the worked filter, with a predicate of its own for the title. -/
theorem Ticket.holds_compile_iff_own_title : Ticket.filter.DistinctNames ∧
    ∃ s, Specification.compile Ticket.catalog Ticket.model Ticket.filter
        (Overrides.empty.registerAll Ticket.filter
          [⟨"title", .text, fun r f => (r.get "title").sameAs (f.get "title")⟩]) .default = .ok s ∧
      ∀ r f, s.holds r f = true ↔ ∀ d ∈ Ticket.filter.fields, d.settings.ignore = false →
        (d.settings.ignoreIfEmpty.getD Options.default.ignoreIfEmpty = true ∧
          (Guard.ofType d.type).admits (f.get d.name) = false) ∨
        Xor (d.settings.negate = true)
          (d.Holds Ticket.catalog Ticket.model .default
            (Overrides.last? Ticket.filter .empty
              [⟨"title", .text, fun r f => (r.get "title").sameAs (f.get "title")⟩] d.name)
            r f) := by
  have hn : Ticket.filter.DistinctNames := by decide
  have hc : ∃ s, Specification.compile Ticket.catalog Ticket.model Ticket.filter
      (Overrides.empty.registerAll Ticket.filter
        [⟨"title", .text, fun r f => (r.get "title").sameAs (f.get "title")⟩]) .default = .ok s :=
    ⟨_, rfl⟩
  obtain ⟨s, hs⟩ := hc
  exact ⟨hn, s, hs, fun r f => Specification.holds_compile_iff hn hs r f⟩

end Sift
