import Sift.Proofs.Planning
import Sift.Proofs.Validity

/-!
# An optional inside an optional

The questions of the operator check look through one `optional`, and a fit does not care how many
there are. So a list or a record in two optionals is asked for as if it were a plain scalar. This
file says how far that goes.

* `Criterion.equality_made_iff` -- equality is made between collections, or between records, exactly
  where a second optional hides what they are;
* `Criterion.inferred_accepted_iff` -- apart from records there is one pair of types that `auto`
  finds no operator for: an optional text against the same with one optional more. The filter's
  text asks for `like`, and the model's is not seen to be one;
* `Ticket.equality_of_hidden_records`, `Ticket.inferred_like_refused` -- both happen.
-/

namespace Sift

/-! ## 1. What a condition compares with -/

namespace Condition

/-- The condition makes a comparison, negated or not. -/
def Compares (cmp : Comparison) (c : Condition) : Prop :=
  ∃ model filter, c.atom = .compare cmp model filter

/-- The condition is an equality, negated or not. -/
def IsEquality (c : Condition) : Prop :=
  ∃ model filter, c.atom = .compare .equal model filter

variable {cmp : Comparison}

theorem compares_negatedIf {c : Condition} {negate : Bool} :
    (c.negatedIf negate).Compares cmp ↔ c.Compares cmp := by
  unfold Compares
  rw [atom_negatedIf]

theorem compares_compare {cmp' : Comparison} {model : Path} {filter : String} :
    (Condition.compare cmp' model filter).Compares cmp ↔ cmp' = cmp := by
  constructor
  · rintro ⟨_, _, hatom⟩
    cases hatom
    rfl
  · rintro rfl
    exact ⟨_, _, rfl⟩

theorem not_compares_isNull (model : Path) : ¬ (Condition.isNull model).Compares cmp := by
  rintro ⟨_, _, hatom⟩
  cases hatom

end Condition

namespace ModelSide

variable {side : ModelSide} {filterType : FieldType} {like : LikeMode} {field : String}

/-- Of the comparisons equality is the one that two operators make. -/
theorem made?_eq_equal_iff (side : ModelSide) (like : LikeMode) (filterType : FieldType)
    (op : Operator) :
    side.made? like filterType op = some .equal ↔ op = .equal ∨ op = .notEqual := by
  cases op with
  | isIn =>
    unfold made? membership?
    rcases side.fit with _ | (_ | _ | _ | _) <;> simp
  | like => cases like <;> simp [made?, comparison?]
  | _ => simp [made?, comparison?]

/-- A null check makes no comparison. -/
theorem made?_of_isNullCheck {op : Operator} (h : op.isNullCheck = true) :
    side.made? like filterType op = none := by
  cases op with
  | isNull | isNotNull => rfl
  | _ => cases h

/-- **A condition makes the comparison of the operator it was made for.** -/
theorem compares_of_condition? {op : Operator} {made : Condition} {cmp : Comparison}
    (h : side.condition? like field filterType op = some made) :
    made.Compares cmp ↔ side.made? like filterType op = some cmp := by
  rcases condition?_cases h with ⟨hnull, _, rfl⟩ | ⟨cmp', hcmp, _, rfl⟩
  · rw [Condition.compares_negatedIf, made?_of_isNullCheck hnull]
    exact iff_of_false (Condition.not_compares_isNull _) (by simp)
  · rw [Condition.compares_negatedIf, Condition.compares_compare, hcmp, Option.some_inj]

/-- What `auto` stands for is an equality where nothing is seen to be a list or the filter a text. -/
theorem inferred_eq_equal_iff :
    side.inferred filterType = .equal ↔
      (side.bothLists filterType || side.fit.any Fit.isMembership) = false ∧
        filterType.isText = false := by
  unfold inferred
  cases side.bothLists filterType || side.fit.any Fit.isMembership <;>
    cases filterType.isText <;> simp

theorem inferred_ne_notEqual : side.inferred filterType ≠ .notEqual := by
  unfold inferred
  split
  · decide
  · split <;> decide

end ModelSide

namespace Criterion

variable {c : Criterion} {side : ModelSide} {kind : Fit}

/-- **What a criterion compares with** is what its operator makes, if it passes. -/
theorem Fits.compares_iff (h : c.Fits side kind) {cmp : Comparison} (filter : String)
    (options : Options) :
    (∃ condition, c.condition filter options = .ok condition ∧ condition.Compares cmp) ↔
      side.made? options.like c.filterType (side.effective c.filterType c.operator) = some cmp ∧
      side.takes c.filterType (side.effective c.filterType c.operator) = true := by
  rcases h.condition_cases filter options with ⟨htakes, made, hmade, hok⟩ | ⟨hrefused, herror⟩
  · rw [hok, htakes, ← ModelSide.compares_of_condition? hmade]
    constructor
    · rintro ⟨_, heq, hcompares⟩
      cases heq
      exact ⟨Condition.compares_negatedIf.mp hcompares, rfl⟩
    · rintro ⟨hcompares, _⟩
      exact ⟨_, rfl, Condition.compares_negatedIf.mpr hcompares⟩
  · rw [herror, hrefused]
    refine iff_of_false ?_ (by simp)
    rintro ⟨_, heq, _⟩
    cases heq

/-! ## 2. Equality -/

/-- A criterion is an equality exactly if its operator is carried out as one and passes. -/
theorem Fits.isEquality_iff (h : c.Fits side kind) (filter : String) (options : Options) :
    (∃ condition, c.condition filter options = .ok condition ∧ condition.IsEquality) ↔
      (side.effective c.filterType c.operator = .equal ∨
        side.effective c.filterType c.operator = .notEqual) ∧
      side.takes c.filterType (side.effective c.filterType c.operator) = true := by
  rw [← ModelSide.made?_eq_equal_iff side options.like c.filterType]
  exact h.compares_iff filter options

/-- A list that is compared as a scalar is hidden by a second optional, on one side at least. -/
theorem Fits.scalar_iff_hidden (h : c.Fits side kind) :
    side.scalar c.filterType = true ↔ (kind = .identical ∨ kind = .nullable) ∧
      (c.filterType.isCollection = true ∨ side.type.isCollection = true →
        c.filterType.singlyOptional = false ∨ side.type.singlyOptional = false) := by
  rw [h.scalar_eq, bothLists_eq, ← Fit.isMembership_eq_false_iff, Bool.and_eq_true,
    Bool.not_eq_true']
  refine and_congr_right fun hk => ?_
  rw [h.isCollection_eq hk]
  cases side.type.isCollection <;> cases c.filterType.singlyOptional <;>
    cases side.type.singlyOptional <;> decide

/-- **Where equality is made.** The operator is one of equality, or it is inferred and the filter is
    not seen to be a text; the types fit as scalars; and a collection on either side is hidden by a
    second optional on one of them, a record by a second optional on the model's side. So neither
    side is a collection or a record if no optional stands directly inside another one. -/
theorem equality_made_iff (h : c.Fits side kind) (filter : String) (options : Options) :
    (∃ condition, c.condition filter options = .ok condition ∧ condition.IsEquality) ↔
      (c.operator = .equal ∨ c.operator = .notEqual ∨
        c.operator = .auto ∧
          ¬ (c.filterType.stripped = .text ∧ c.filterType.singlyOptional = true)) ∧
      (kind = .identical ∨ kind = .nullable) ∧
      (c.filterType.isCollection = true ∨ side.type.isCollection = true →
        c.filterType.singlyOptional = false ∨ side.type.singlyOptional = false) ∧
      (c.filterType.isNested = true ∨ side.type.isNested = true →
        side.type.singlyOptional = false) := by
  -- with scalars the operator that is carried out is equality as far as the names of operators go
  have hoperator : side.scalar c.filterType = true →
      ((side.effective c.filterType c.operator = .equal ∨
          side.effective c.filterType c.operator = .notEqual) ↔
        (c.operator = .equal ∨ c.operator = .notEqual ∨ c.operator = .auto ∧
          ¬ (c.filterType.stripped = .text ∧ c.filterType.singlyOptional = true))) := by
    intro hscalar
    rw [h.scalar_eq, Bool.and_eq_true, Bool.not_eq_true', Bool.not_eq_true'] at hscalar
    cases hop : c.operator with
    | auto =>
      show side.inferred c.filterType = .equal ∨ side.inferred c.filterType = .notEqual ↔ _
      simp [ModelSide.inferred_eq_equal_iff, ModelSide.inferred_ne_notEqual, h.carried, hscalar,
        FieldType.isText_eq]
    | _ => simp [ModelSide.effective]
  have hpasses : ∀ op : Operator, op = .equal ∨ op = .notEqual →
      (side.takes c.filterType op = true ↔
        side.scalar c.filterType = true ∧ side.type.isRecord = false) := by
    rintro op (rfl | rfl)
    · simp [ModelSide.takes]
    · simp [ModelSide.takes]
  have hrecord : kind.isMembership = false → (side.type.isRecord = false ↔
      (c.filterType.isNested = true ∨ side.type.isNested = true →
        side.type.singlyOptional = false)) := by
    intro hk
    rw [FieldType.isRecord_eq, h.isNested_eq hk, or_self]
    cases side.type.isNested <;> cases side.type.singlyOptional <;> decide
  have hscalar := h.scalar_iff_hidden
  rw [h.isEquality_iff]
  constructor
  · rintro ⟨hop, htakes⟩
    obtain ⟨hs, hr⟩ := (hpasses _ hop).mp htakes
    obtain ⟨hk, hcollection⟩ := hscalar.mp hs
    exact ⟨(hoperator hs).mp hop, hk, hcollection,
      (hrecord (Fit.isMembership_eq_false_iff.mpr hk)).mp hr⟩
  · rintro ⟨hop, hk, hcollection, hnested⟩
    have hs := hscalar.mpr ⟨hk, hcollection⟩
    have hmade := (hoperator hs).mpr hop
    exact ⟨hmade, (hpasses _ hmade).mpr
      ⟨hs, (hrecord (Fit.isMembership_eq_false_iff.mpr hk)).mpr hnested⟩⟩

end Criterion

namespace Ticket

/-- Lists of labels are compared as a whole when two optionals hide that they are lists, although no
    operator is named. -/
theorem equality_made_iff_labels :
    let labels := FieldType.optional (.optional (.list .text))
    let side : ModelSide := ⟨.single "labels", labels, some .identical, true⟩
    let c : Criterion := ⟨"labels", labels, .auto, false, true, .model side⟩
    c.Fits side .identical ∧ ∃ condition, c.condition "LabelsFilter" .default = .ok condition ∧
      condition.IsEquality := by
  intro labels side c
  have hfits : c.Fits side .identical := ⟨rfl, by decide, rfl⟩
  refine ⟨hfits, (Criterion.equality_made_iff hfits "LabelsFilter" .default).mpr ?_⟩
  exact ⟨by decide, .inl rfl, fun _ => .inl rfl, by decide⟩

/-- **Nested records are compared for equality** when two optionals hide that they are records. Two
    records are the same only if they are one object, so an owner who is given is never found. -/
theorem equality_of_hidden_records :
    let owner := FieldType.optional (.optional (.record ⟨"Person"⟩))
    let side : ModelSide := ⟨.single "owner", owner, some .identical, true⟩
    let c : Criterion := ⟨"owner", owner, .equal, false, true, .model side⟩
    c.Fits side .identical ∧ owner.isNested = true ∧
      c.condition "OwnerFilter" .default = .ok (.compare .equal (.single "owner") "owner") :=
  ⟨⟨rfl, by decide, rfl⟩, rfl, rfl⟩

end Ticket

/-! ## 3. Operators that are inferred -/

/-- Of two types that differ by one optional at most, one is seen to be a text and the other is in
    two optionals: then they are the optional text and the same with one optional more. -/
theorem FieldType.Near.eq_of_isText {a b : FieldType} (h : a.Near b) (ha : a.isText = true)
    (hb : b.singlyOptional = false) :
    a = .optional .text ∧ b = .optional (.optional .text) := by
  obtain ⟨htext, hone⟩ : a.stripped = .text ∧ a.singlyOptional = true := by
    rw [isText_eq, Bool.and_eq_true, decide_eq_true_eq] at ha
    exact ha
  have hplain : a.unwrapped = .text := (unwrapped_of_singlyOptional hone).trans htext
  rcases h with rfl | rfl | rfl
  · rw [hone] at hb
    cases hb
  · have htwo : b = .text := hplain
    rw [htwo] at hb
    cases hb
  · -- `b` is `a` in an optional, and this is not the only one
    have hopt : a.isOptional = true := (Bool.not_eq_false' _).mp hb
    cases a with
    | optional s =>
      have hs : s = .text := hplain
      subst hs
      exact ⟨rfl, rfl⟩
    | _ => cases hopt

namespace Criterion

variable {c : Criterion} {side : ModelSide} {kind : Fit}

/-- **What is inferred passes**, where the model is not seen to be a record, or it is the `like` of an
    optional text against the same with one optional more. -/
theorem Fits.inferred_cases (h : c.Fits side kind) (hrecord : side.type.isRecord = false) :
    (side.takes c.filterType (side.inferred c.filterType) = true ∧
        ¬ (c.filterType = .optional .text ∧ side.type = .optional (.optional .text))) ∨
      (side.takes c.filterType (side.inferred c.filterType) = false ∧
        side.inferred c.filterType = .like ∧
        c.filterType = .optional .text ∧ side.type = .optional (.optional .text)) := by
  have hinferred : side.inferred c.filterType =
      if side.bothLists c.filterType || kind.isMembership then .isIn
      else if c.filterType.isText then .like else .equal := by
    unfold ModelSide.inferred
    rw [h.carried]
    rfl
  cases hany : side.bothLists c.filterType || kind.isMembership with
  | true =>
    -- a membership is tested, whatever the optionals
    left
    rw [hinferred, hany, if_pos rfl]
    refine ⟨h.isSome_membership?_eq.trans (by rw [Bool.or_comm, hany]), ?_⟩
    rintro ⟨hf, hm⟩
    have hfound := h.found
    rw [bothLists_eq, hf, hm] at hany
    rw [hf, hm] at hfound
    cases hfound
    cases hany
  | false =>
    obtain ⟨hboth, hk⟩ := Bool.or_eq_false_iff.mp hany
    have hscalar : side.scalar c.filterType = true := by
      rw [h.scalar_eq, hboth, hk]
      rfl
    rw [hinferred, hany, if_neg Bool.false_ne_true]
    cases htext : c.filterType.isText with
    | true =>
      have hlike : side.takes c.filterType .like = side.type.singlyOptional := by
        have hstripped : side.type.stripped = .text := by
          rw [FieldType.isText_eq, Bool.and_eq_true, decide_eq_true_eq] at htext
          exact (Fit.stripped_eq h.found hk).symm.trans htext.1
        show (side.scalar c.filterType && side.type.isText) = _
        rw [hscalar, FieldType.isText_eq, hstripped, decide_eq_true rfl]
        rfl
      rw [if_pos rfl, hlike]
      cases hone : side.type.singlyOptional with
      | true =>
        left
        refine ⟨rfl, ?_⟩
        rintro ⟨_, hm⟩
        rw [hm] at hone
        cases hone
      | false => exact .inr ⟨rfl, rfl, (Fit.near_of_ofTypes? h.found hk).eq_of_isText htext hone⟩
    | false =>
      left
      rw [if_neg Bool.false_ne_true]
      refine ⟨?_, ?_⟩
      · show (side.scalar c.filterType && !side.type.isRecord) = true
        rw [hscalar, hrecord]
        rfl
      · rintro ⟨hf, _⟩
        rw [hf] at htext
        cases htext

/-- **`auto` finds an operator, but for one pair of types.** A criterion that names no operator is
    accepted wherever the model type is no record, except for an optional text against the same with
    one optional more: there the filter's text asks for `like`, which is refused. -/
theorem inferred_accepted_iff (h : c.Fits side kind) (hop : c.operator = .auto)
    (hrecord : side.type.isNested = false) (filter : String) (options : Options) :
    ((∃ condition, c.condition filter options = .ok condition) ↔
      ¬ (c.filterType = .optional .text ∧ side.type = .optional (.optional .text))) ∧
    ∀ e, c.condition filter options = .error e →
      e = .invalidOperator .like filter c.field (.optional .text) (.optional (.optional .text)) := by
  have heffective : side.effective c.filterType c.operator = side.inferred c.filterType := by
    rw [hop]
    rfl
  have hnoRecord : side.type.isRecord = false := by
    rw [FieldType.isRecord_eq, hrecord, Bool.false_and]
  have hcases := h.condition_cases filter options
  rw [h.condition_isOk_iff, heffective]
  rw [heffective] at hcases
  rcases h.inferred_cases hnoRecord with ⟨htakes, hpair⟩ | ⟨hrefused, hlike, hf, hm⟩
  · refine ⟨iff_of_true htakes hpair, fun e he => ?_⟩
    rcases hcases with ⟨_, _, _, hok⟩ | ⟨hrefused, _⟩
    · rw [he] at hok
      cases hok
    · rw [htakes] at hrefused
      cases hrefused
  · refine ⟨iff_of_false (by rw [hrefused]; decide) (not_not_intro ⟨hf, hm⟩), fun e he => ?_⟩
    rcases hcases with ⟨_, _, _, hok⟩ | ⟨_, herror⟩
    · rw [he] at hok
      cases hok
    · rw [he, hlike, hf, hm] at herror
      cases herror
      rfl

end Criterion

namespace Ticket

/-- With the two types exchanged the same search is accepted. -/
theorem inferred_accepted_iff_mirrored :
    let side : ModelSide := ⟨.single "note", .optional .text, some .nullable, true⟩
    let c : Criterion := ⟨"note", .optional (.optional .text), .auto, false, true, .model side⟩
    c.Fits side .nullable ∧ side.type.isNested = false ∧
      ∃ condition, c.condition "NoteFilter" .default = .ok condition := by
  intro side c
  have hfits : c.Fits side .nullable := ⟨rfl, by decide, rfl⟩
  refine ⟨hfits, rfl, ?_⟩
  exact (Criterion.inferred_accepted_iff hfits rfl rfl "NoteFilter" .default).1.mpr (by decide)

/-- **An operator is inferred that is then refused**, though the types fit. -/
theorem inferred_like_refused :
    let side : ModelSide := ⟨.single "note", .optional (.optional .text), some .nullable, true⟩
    let c : Criterion := ⟨"note", .optional .text, .auto, false, true, .model side⟩
    c.Fits side .nullable ∧ side.type.isNested = false ∧
      c.condition "NoteFilter" .default = .error (.invalidOperator .like "NoteFilter" "note"
        (.optional .text) (.optional (.optional .text))) :=
  ⟨⟨rfl, by decide, rfl⟩, rfl, rfl⟩

end Ticket

end Sift
