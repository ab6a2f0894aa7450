import Sift.Criterion.Condition

/-!
# Which comparisons a model side takes

An operator becomes a condition when it makes sense between the two types. This file says once what
that condition can be, so that nothing later has to look into the choice again:

* `ModelSide.Licenses` -- what is known of the types when a comparison is made between them;
* `ModelSide.condition?_cases` -- a condition is a null check of a value that can be absent, or a
  licensed comparison, negated for the two operators that are negations.
-/

namespace Sift

/-- The operator is the negation of another one. -/
def Operator.isNegative : Operator → Bool
  | .notEqual | .isNotNull => true
  | _ => false

namespace ModelSide

/-- What the types have to be for a comparison between them. -/
def Licenses (side : ModelSide) (filterType : FieldType) : Comparison → Prop
  | .equal => side.scalar filterType = true ∧ side.type.isRecord = false
  | .greater | .greaterOrEqual | .less | .lessOrEqual =>
    side.scalar filterType = true ∧ side.type.isOrderable = true
  | .contains | .containsIgnoreCase | .startsWith | .endsWith =>
    side.scalar filterType = true ∧ side.type.isText = true
  | .anyOf => ∃ n, side.fit = some (.anyOf n)
  | .includes => ∃ n, side.fit = some (.includes n)
  | .overlaps => (side.fit = some .identical ∨ side.fit = some .nullable) ∧
    side.bothLists filterType = true

/-- The comparison an operator makes, whether or not the types take it. -/
def made? (side : ModelSide) (like : LikeMode) (filterType : FieldType) : Operator →
    Option Comparison
  | .isIn => side.membership? filterType
  | op => comparison? like op

variable {side : ModelSide} {filterType : FieldType} {like : LikeMode} {field : String}

/-- **A membership is licensed by the fit it is made for.** -/
theorem licenses_of_membership? {c : Comparison} (h : side.membership? filterType = some c) :
    side.Licenses filterType c := by
  unfold membership? at h
  split at h
  · rename_i n hfit
    cases h
    exact ⟨n, hfit⟩
  · rename_i n hfit
    cases h
    exact ⟨n, hfit⟩
  · rename_i k hany hincludes hfit
    obtain ⟨hboth, h⟩ := Option.ite_none_right_eq_some.mp h
    cases h
    refine ⟨?_, hboth⟩
    cases k with
    | identical => exact .inl hfit
    | nullable => exact .inr hfit
    | anyOf n => exact absurd rfl (hany n)
    | includes n => exact absurd rfl (hincludes n)
  · cases h

/-- **Everything a condition can be.** -/
theorem condition?_cases {op : Operator} {c : Condition}
    (h : side.condition? like field filterType op = some c) :
    (op.isNullCheck = true ∧ side.nullable = true ∧
        c = (Condition.isNull side.path).negatedIf op.isNegative) ∨
      ∃ cmp, side.made? like filterType op = some cmp ∧ side.Licenses filterType cmp ∧
        c = (Condition.compare cmp side.path field).negatedIf op.isNegative := by
  cases op with
  | auto => cases h
  | isNull =>
    obtain ⟨hnull, h⟩ := Option.ite_none_right_eq_some.mp h
    cases h
    exact .inl ⟨rfl, hnull, rfl⟩
  | isNotNull =>
    obtain ⟨hnull, h⟩ := Option.ite_none_right_eq_some.mp h
    cases h
    exact .inl ⟨rfl, hnull, rfl⟩
  | isIn =>
    obtain ⟨cmp, hcmp, rfl⟩ := Option.map_eq_some_iff.mp h
    exact .inr ⟨cmp, hcmp, licenses_of_membership? hcmp, rfl⟩
  | like =>
    obtain ⟨hl, h⟩ := Option.ite_none_right_eq_some.mp h
    rw [Bool.and_eq_true] at hl
    cases like with
    | ordinal =>
      cases h
      exact .inr ⟨.contains, rfl, hl, rfl⟩
    | caseInsensitive =>
      cases h
      exact .inr ⟨.containsIgnoreCase, rfl, hl, rfl⟩
  | _ =>
    obtain ⟨hl, h⟩ := Option.ite_none_right_eq_some.mp h
    cases h
    simp only [Bool.and_eq_true, Bool.not_eq_true'] at hl
    exact .inr ⟨_, rfl, hl, rfl⟩

end ModelSide

end Sift
