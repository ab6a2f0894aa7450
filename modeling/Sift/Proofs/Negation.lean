import Sift.Proofs.Planning

/-!
# The negation of conditions

A negation is made by taking a leading `not` away or by putting one in front, and nothing is looked
at below it. That is enough to turn the answer of every condition round. It is not enough to undo
itself, which it does only where there is at most one `not` to begin with. Conditions that criteria
have are of this kind, although two parties negate them: two of the operators are negations of
others, and the field may ask for one more.

* `Condition.lower_negated` -- a negated condition gives the opposite answer, however deep the
  condition is;
* `Condition.negated_negated_iff` -- two negations undo each other on conditions with at most one
  `not`;
* `Criterion.condition_eq_negatedIf` -- what a criterion has for its condition is no negation
  itself, and is negated if exactly one of the two parties says so;
* `Criterion.condition_unnegated` -- so an operator that is a negation, negated, is the other one;
* `Condition.negation_laws` -- the main statement.
-/

namespace Sift

namespace Condition

/-! ## 1. Counting negations -/

/-- How many negations there are in a condition. -/
def nots : Condition → Nat
  | .not inner => inner.nots + 1
  | _ => 0

variable {c : Condition}

@[simp] theorem nots_not (c : Condition) : (Condition.not c).nots = c.nots + 1 := rfl

theorem nots_eq_zero_iff : c.nots = 0 ↔ c.isNegated = false := by
  cases c <;> simp [nots, isNegated]

theorem negated_of_not_isNegated (h : c.isNegated = false) : c.negated = .not c := by
  cases c with
  | not inner => cases h
  | _ => rfl

theorem isNegated_negatedIf (h : c.isNegated = false) (negate : Bool) :
    (c.negatedIf negate).isNegated = negate := by
  cases negate with
  | false => exact h
  | true => rw [negatedIf_true, negated_of_not_isNegated h, isNegated]

theorem nots_negatedIf (h : c.isNegated = false) (negate : Bool) :
    (c.negatedIf negate).nots = negate.toNat := by
  have hnots := nots_eq_zero_iff.mpr h
  cases negate with
  | false => exact hnots
  | true => rw [negatedIf_true, negated_of_not_isNegated h, nots_not, hnots]; rfl

/-! ## 2. Two negations -/

/-- A condition with at most one `not` keeps at most one. -/
theorem nots_negated_le (h : c.nots ≤ 1) : c.negated.nots ≤ 1 := by
  cases c with
  | not inner =>
    rw [nots_not] at h
    rw [negated_not]
    omega
  | _ => exact Nat.le_refl 1

/-- **Negating twice gives the condition back exactly if it has at most one `not`.** -/
theorem negated_negated_iff : c.negated.negated = c ↔ c.nots ≤ 1 := by
  cases c with
  | not inner =>
    rw [negated_not, nots_not]
    constructor
    · intro h
      -- the count tells `inner` from a condition with two more negations
      cases inner with
      | not deeper =>
        have hnots := congrArg nots h
        rw [negated_not, nots_not, nots_not] at hnots
        omega
      | _ => exact Nat.le_refl 1
    · intro h
      exact negated_of_not_isNegated (nots_eq_zero_iff.mp (by omega))
  | _ => exact iff_of_true rfl (Nat.zero_le 1)

/-! ## 3. The answer of a negated condition -/

/-- **A negated condition is carried over into the opposite test**, and is refused for the predicate
    that the condition is refused for. -/
theorem lower_negated (missing : String → Error) (o : Overrides) (c : Condition) :
    c.negated.lower missing o = (c.lower missing o).map fun p r f => !p r f := by
  cases c with
  | not inner =>
    rw [negated_not, lower]
    cases inner.lower missing o with
    | error e => rfl
    | ok p => simp [Except.map]
  | _ => rfl

end Condition

/-! ## 4. Operators that are negations -/

/-- The operator that an operator negates, if it is a negation. -/
def Operator.unnegated : Operator → Operator
  | .notEqual => .equal
  | .isNotNull => .isNull
  | op => op

theorem Operator.isNegative_unnegated (op : Operator) : op.unnegated.isNegative = false := by
  cases op <;> rfl

namespace ModelSide

variable {side : ModelSide} {like : LikeMode} {field : String} {filterType : FieldType}
  {op : Operator}

/-- What `auto` stands for is no negation. -/
theorem unnegated_inferred (side : ModelSide) (filterType : FieldType) :
    (side.inferred filterType).unnegated = side.inferred filterType ∧
      (side.inferred filterType).isNegative = false := by
  unfold inferred
  split
  · exact ⟨rfl, rfl⟩
  · split <;> exact ⟨rfl, rfl⟩

theorem effective_unnegated :
    side.effective filterType op.unnegated = (side.effective filterType op).unnegated := by
  cases op with
  | auto => exact (unnegated_inferred side filterType).1.symm
  | _ => rfl

theorem isNegative_effective : (side.effective filterType op).isNegative = op.isNegative := by
  cases op with
  | auto => exact (unnegated_inferred side filterType).2
  | _ => rfl

/-- A condition is made as a negation by the operators that are negations. -/
theorem isNegated_of_condition? {made : Condition}
    (h : side.condition? like field filterType op = some made) :
    made.isNegated = op.isNegative := by
  rcases condition?_cases h with ⟨_, _, rfl⟩ | ⟨_, _, _, rfl⟩
  · exact Condition.isNegated_negatedIf rfl _
  · exact Condition.isNegated_negatedIf rfl _

/-- An operator that is a negation makes the opposite of what the other one makes. -/
theorem condition?_unnegated :
    side.condition? like field filterType op =
      (side.condition? like field filterType op.unnegated).map (·.negatedIf op.isNegative) := by
  cases op with
  | notEqual | isNotNull =>
    simp only [condition?, Operator.unnegated, Operator.isNegative]
    split <;> rfl
  | _ => exact Option.map_id'.symm

end ModelSide

/-! ## 5. The condition of a criterion -/

namespace Criterion

/-- The operator that is carried out for a criterion is a negation. Where a predicate is asked, no
    operator is. -/
def isNegative (k : Criterion) : Bool :=
  match k.target with
  | .override => false
  | .model side => (side.effective k.filterType k.operator).isNegative

variable {k : Criterion} {name : String} {options : Options} {c : Condition}

/-- **What a criterion has for its condition is no negation itself, and is negated if its operator
    or its field is one for it, not both.** -/
theorem condition_eq_negatedIf (h : k.condition name options = .ok c) :
    ∃ atom : Condition, atom.isNegated = false ∧ c = atom.negatedIf (k.isNegative ^^ k.negate) := by
  unfold condition at h
  unfold isNegative
  cases htarget : k.target with
  | override =>
    rw [htarget] at h
    cases h
    exact ⟨.custom k.field, rfl, by rw [Bool.false_xor]⟩
  | model side =>
    rw [htarget] at h
    simp only at h
    split at h
    · rename_i made hmade
      cases h
      rcases ModelSide.condition?_cases hmade with ⟨_, _, rfl⟩ | ⟨_, _, _, rfl⟩
      · exact ⟨_, rfl, Condition.negatedIf_negatedIf rfl _ _⟩
      · exact ⟨_, rfl, Condition.negatedIf_negatedIf rfl _ _⟩
    · cases h

/-- The criterion with the operator that its own negates, the negation of the field turned round
    for it. -/
def unnegated (k : Criterion) : Criterion :=
  { k with operator := k.operator.unnegated, negate := k.operator.isNegative ^^ k.negate }

/-- **A field that searches with a negation searches with the other operator, its own negation
    turned round**: `ne` under a negation is `eq`. -/
theorem condition_unnegated {side : ModelSide} (htarget : k.target = .model side) :
    k.condition name options = .ok c ↔ k.unnegated.condition name options = .ok c := by
  have hmade : side.condition? options.like k.field k.filterType
        (side.effective k.filterType k.operator) =
      (side.condition? options.like k.field k.filterType
        (side.effective k.filterType k.operator.unnegated)).map
          (·.negatedIf k.operator.isNegative) := by
    rw [ModelSide.condition?_unnegated, ModelSide.isNegative_effective,
      ModelSide.effective_unnegated]
  simp only [condition, unnegated, htarget, hmade]
  cases hpositive : side.condition? options.like k.field k.filterType
      (side.effective k.filterType k.operator.unnegated) with
  | none => simp
  | some made =>
    have hplain : made.isNegated = false := by
      rw [ModelSide.isNegated_of_condition? hpositive, ModelSide.isNegative_effective,
        Operator.isNegative_unnegated]
    simp only [Option.map_some, Condition.negatedIf_negatedIf hplain]

end Criterion

/-! ## 6. The laws -/

/-- **The laws of negation.** A negated condition, however deep it is, is carried over into the
    opposite test, and is refused if the condition is. The condition of a criterion has at most one
    `not`, the outermost; it has it if the operator that is carried out is a negation or the field
    says so, and not both. An operator that is a negation can be had by the other one, the negation
    of the field turned round. Two negations give a condition back exactly if it has at most one
    `not`, and then it never has more. -/
theorem Condition.negation_laws :
    (∀ (missing : String → Error) (o : Overrides) (c : Condition),
      c.negated.lower missing o = (c.lower missing o).map fun p r f => !p r f) ∧
    (∀ (k : Criterion) (name : String) (options : Options) (c : Condition),
      k.condition name options = .ok c →
        c.nots ≤ 1 ∧ (∀ inner, c = .not inner → inner.nots = 0) ∧
        c.isNegated = (k.isNegative ^^ k.negate)) ∧
    (∀ (k : Criterion) (side : ModelSide) (name : String) (options : Options) (c : Condition),
      k.target = .model side →
        (k.condition name options = .ok c ↔ k.unnegated.condition name options = .ok c)) ∧
    ∀ c : Condition, (c.negated.negated = c ↔ c.nots ≤ 1) ∧ (c.nots ≤ 1 → c.negated.nots ≤ 1) := by
  refine ⟨lower_negated, fun k name options c h => ?_, fun k side name options c htarget =>
    Criterion.condition_unnegated htarget, fun c => ⟨negated_negated_iff, nots_negated_le⟩⟩
  obtain ⟨atom, hatom, rfl⟩ := Criterion.condition_eq_negatedIf h
  have hnots : (atom.negatedIf (k.isNegative ^^ k.negate)).nots ≤ 1 := by
    rw [nots_negatedIf hatom]
    exact Bool.toNat_le _
  refine ⟨hnots, fun inner hinner => ?_, isNegated_negatedIf hatom _⟩
  rw [hinner, nots_not] at hnots
  omega

namespace Ticket

/-- A criterion for tickets with a number of votes that is not said not to be the given one. -/
def notUnequal : Criterion :=
  ⟨"votes", .number .u32, .notEqual, true, true,
    .model ⟨.single "votes", .number .u32, some .identical, false⟩⟩

/-- The condition of the criterion is the plain equality, which is also what `eq` makes. -/
theorem negation_laws_votes :
    notUnequal.condition "VotesFilter" .default =
        .ok (.compare .equal (.single "votes") "votes") ∧
      (Condition.compare .equal (.single "votes") "votes").isNegated = false ∧
      notUnequal.unnegated = { notUnequal with operator := .equal, negate := false } ∧
      notUnequal.unnegated.condition "VotesFilter" .default =
        .ok (.compare .equal (.single "votes") "votes") ∧
      (Condition.not (.not (.custom "votes"))).negated.negated ≠
        .not (.not (.custom "votes")) := by
  have hmade : notUnequal.condition "VotesFilter" .default =
      .ok (.compare .equal (.single "votes") "votes") := rfl
  obtain ⟨_, hcriteria, hunnegated, htwice⟩ := Condition.negation_laws
  obtain ⟨_, _, hnegated⟩ := hcriteria notUnequal _ _ _ hmade
  refine ⟨hmade, hnegated.trans rfl, rfl, (hunnegated notUnequal _ _ _ _ rfl).mp hmade, ?_⟩
  rw [ne_eq, (htwice _).1]
  decide

end Ticket

end Sift
