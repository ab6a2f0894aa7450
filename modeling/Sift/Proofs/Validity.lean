import Sift.Proofs.Fits
import Sift.Proofs.Operators

/-!
# The table of operators

An operator is checked against two types by questions that look through one `optional` each. This
file says which operators pass, in terms of what the types ARE: a collection, a record, something
with an order, whatever the number of optionals around it.

* `stripped`, `isCollection`, `isNested`, `isOrdered` -- a type without the optionals around it, and
  what is then left;
* `asked_eq` -- a question that looks through one `optional` is answered with yes exactly if the
  stripped type is of the kind asked for and AT MOST ONE optional stands around it
  (`singlyOptional`). Every question of this sort is an instance;
* `condition?_isSome`, `condition_isOk` -- the checks an operator has to pass, and all there is to a
  criterion being accepted;
* `Criterion.operator_table` -- where no type has an optional directly inside another one, the
  operators are accepted by a table that mentions neither depth nor order of the checks.
-/

namespace Sift

namespace FieldType

/-! ## 1. Types without their optionals -/

/-- What is left when every `optional` around a type is taken away. Lists stay. -/
def stripped : FieldType → FieldType
  | .optional t => t.stripped
  | t => t

/-- A list, in any number of optionals. -/
def isCollection (t : FieldType) : Bool :=
  match t.stripped with
  | .list _ => true
  | _ => false

/-- A nested record, in any number of optionals. -/
def isNested (t : FieldType) : Bool :=
  match t.stripped with
  | .record _ => true
  | _ => false

/-- Text, a number or a timestamp, in any number of optionals. -/
def isOrdered (t : FieldType) : Bool :=
  match t.stripped with
  | .text | .number _ | .timestamp => true
  | _ => false

/-- No optional stands directly inside an outermost one. -/
def singlyOptional (t : FieldType) : Bool := !t.unwrapped.isOptional

/-- A type that is not optional is stripped already. -/
theorem stripped_of_isOptional {t : FieldType} (h : t.isOptional = false) : t.stripped = t := by
  cases t with
  | optional t => cases h
  | _ => rfl

theorem stripped_unwrapped (t : FieldType) : t.unwrapped.stripped = t.stripped := by
  cases t <;> rfl

/-- Where one optional is all there can be, taking away one takes away all. -/
theorem unwrapped_of_singlyOptional {t : FieldType} (h : t.singlyOptional = true) :
    t.unwrapped = t.stripped := by
  rw [← stripped_unwrapped]
  exact (stripped_of_isOptional ((Bool.not_eq_true' _).mp h)).symm

/-- **A question that looks through one optional** is a question about the stripped type, answered
    with no where a second optional is in the way. -/
theorem asked_eq (ask : FieldType → Bool) (hask : ∀ t, ask (.optional t) = false)
    (t : FieldType) : ask t.unwrapped = (ask t.stripped && t.singlyOptional) := by
  cases hone : t.singlyOptional with
  | true => rw [unwrapped_of_singlyOptional hone, Bool.and_true]
  | false =>
    rw [Bool.and_false]
    have htwo : t.unwrapped.isOptional = true := (Bool.not_eq_false' _).mp hone
    cases hu : t.unwrapped with
    | optional s => exact hask s
    | _ => rw [hu] at htwo; cases htwo

theorem isRecord_eq (t : FieldType) : t.isRecord = (t.isNested && t.singlyOptional) :=
  asked_eq (fun s => match s with | .record _ => true | _ => false) (fun _ => rfl) t

theorem isOrderable_eq (t : FieldType) : t.isOrderable = (t.isOrdered && t.singlyOptional) :=
  asked_eq (fun s => match s with | .text | .number _ | .timestamp => true | _ => false)
    (fun _ => rfl) t

theorem isText_eq (t : FieldType) :
    t.isText = (decide (t.stripped = .text) && t.singlyOptional) := by
  rw [← asked_eq (fun s => decide (s = .text)) (fun _ => rfl) t]
  unfold isText
  cases t.unwrapped <;> rfl

theorem isSome_element?_eq (t : FieldType) :
    t.element?.isSome = (t.isCollection && t.singlyOptional) := by
  refine Eq.trans ?_
    (asked_eq (fun s => match s with | .list _ => true | _ => false) (fun _ => rfl) t)
  cases t with
  | optional t => cases t <;> rfl
  | _ => rfl

theorem Near.stripped_eq {a b : FieldType} (h : Near a b) : a.stripped = b.stripped := by
  rcases h with rfl | rfl | rfl <;> rfl

/-! ### A type is one thing only -/

theorem isNested_of_isCollection {t : FieldType} (h : t.isCollection = true) :
    t.isNested = false := by
  unfold isCollection at h
  unfold isNested
  split at h
  · rename_i e he
    rw [he]
  · cases h

theorem isNested_of_isOrdered {t : FieldType} (h : t.isOrdered = true) : t.isNested = false := by
  unfold isOrdered at h
  unfold isNested
  cases hs : t.stripped with
  | record n => rw [hs] at h; cases h
  | _ => rfl

theorem isOrdered_of_text {t : FieldType} (h : t.stripped = .text) : t.isOrdered = true := by
  unfold isOrdered
  rw [h]

end FieldType

/-! ## 2. The checks -/

namespace Fit

/-- The comparison of a membership: of a list with what it may hold, or of two lists. -/
def membership : Fit → Comparison
  | .anyOf _ => .anyOf
  | .includes _ => .includes
  | .identical | .nullable => .overlaps

theorem isMembership_eq_false_iff {k : Fit} :
    k.isMembership = false ↔ k = .identical ∨ k = .nullable := by
  cases k <;> simp [isMembership]

/-- Scalars that are not records, as far as the model type says. -/
def Scalars (model : FieldType) (k : Fit) : Prop :=
  (k = .identical ∨ k = .nullable) ∧ model.isCollection = false ∧ model.isNested = false

/-- Scalars that fit differ by one optional at most. -/
theorem near_of_ofTypes? {filter model : FieldType} {k : Fit} (h : ofTypes? filter model = some k)
    (hk : k.isMembership = false) : filter.Near model := by
  rcases isMembership_eq_false_iff.mp hk with rfl | rfl
  · exact says_of_ofTypes? h
  · exact says_of_ofTypes? h

/-- **Scalars that fit are the same type but for the optionals around them.** -/
theorem stripped_eq {filter model : FieldType} {k : Fit} (h : ofTypes? filter model = some k)
    (hk : k.isMembership = false) : filter.stripped = model.stripped :=
  (near_of_ofTypes? h hk).stripped_eq

/-- **One side of a membership is a collection.** -/
theorem isCollection_of_isMembership {filter model : FieldType} {k : Fit}
    (h : ofTypes? filter model = some k) (hk : k.isMembership = true) :
    filter.isCollection = true ∨ model.isCollection = true := by
  have hs := says_of_ofTypes? h
  have collection : ∀ {t e : FieldType}, t.element? = some e → t.isCollection = true := by
    intro t e he
    have hsome := FieldType.isSome_element?_eq t
    rw [he] at hsome
    exact (Bool.and_eq_true_iff.mp hsome.symm).1
  cases k with
  | identical => cases hk
  | nullable => cases hk
  | anyOf n =>
    obtain ⟨e, he, _⟩ := hs
    exact .inl (collection he)
  | includes n =>
    obtain ⟨e, he, _⟩ := hs
    exact .inr (collection he)

end Fit

namespace ModelSide

/-- The check an operator has to pass between the two types. -/
def takes (side : ModelSide) (filterType : FieldType) : Operator → Bool
  | .equal | .notEqual => side.scalar filterType && !side.type.isRecord
  | .greaterThan | .greaterOrEqual | .lessThan | .lessOrEqual =>
    side.scalar filterType && side.type.isOrderable
  | .like | .contains | .startsWith | .endsWith => side.scalar filterType && side.type.isText
  | .isIn => (side.membership? filterType).isSome
  | .isNull | .isNotNull => side.nullable
  | .auto => false

/-- **An operator has a condition exactly if it passes its check.** -/
theorem isSome_condition? (side : ModelSide) (like : LikeMode) (field : String)
    (filterType : FieldType) (op : Operator) :
    (side.condition? like field filterType op).isSome = side.takes filterType op := by
  have tested : ∀ {α : Type} (b : Bool) (a : α), (if b then some a else none).isSome = b := by
    intro α b a
    cases b <;> rfl
  cases op with
  | like => cases like <;> exact tested _ _
  | isIn => exact Option.isSome_map
  | auto => rfl
  | _ => exact tested _ _

end ModelSide

/-- A criterion reads the model, and the two types fit as `kind`. -/
structure Criterion.Fits (c : Criterion) (side : ModelSide) (kind : Fit) : Prop where
  target : c.target = .model side
  found : Fit.ofTypes? c.filterType side.type = some kind
  carried : side.fit = some kind

namespace Criterion.Fits

variable {c : Criterion} {side : ModelSide} {kind : Fit}

theorem bothLists_eq (side : ModelSide) (filterType : FieldType) :
    side.bothLists filterType = (filterType.isCollection && filterType.singlyOptional &&
      (side.type.isCollection && side.type.singlyOptional)) := by
  unfold ModelSide.bothLists
  rw [FieldType.isSome_element?_eq, FieldType.isSome_element?_eq]

theorem scalar_eq (h : c.Fits side kind) :
    side.scalar c.filterType = (!kind.isMembership && !side.bothLists c.filterType) := by
  unfold ModelSide.scalar
  rw [h.carried]
  cases kind <;> rfl

theorem isSome_membership?_eq (h : c.Fits side kind) :
    (side.membership? c.filterType).isSome =
      (kind.isMembership || side.bothLists c.filterType) := by
  unfold ModelSide.membership?
  rw [h.carried]
  cases kind <;> cases side.bothLists c.filterType <;> rfl

/-- What a membership compares with depends on the fit alone. -/
theorem eq_membership {cmp : Comparison} (h : c.Fits side kind)
    (hcmp : side.membership? c.filterType = some cmp) : cmp = kind.membership := by
  unfold ModelSide.membership? at hcmp
  rw [h.carried] at hcmp
  cases kind with
  | anyOf n | includes n =>
    cases hcmp
    rfl
  | identical | nullable =>
    obtain ⟨_, hcmp⟩ := Option.ite_none_right_eq_some.mp hcmp
    cases hcmp
    rfl

/-- **All that happens to the criterion**: it becomes the condition of its operator, or the error
    that names the operator. -/
theorem condition_cases (h : c.Fits side kind) (filter : String) (options : Options) :
    (side.takes c.filterType (side.effective c.filterType c.operator) = true ∧
      ∃ condition, side.condition? options.like c.field c.filterType
          (side.effective c.filterType c.operator) = some condition ∧
        c.condition filter options = .ok (condition.negatedIf c.negate)) ∨
    (side.takes c.filterType (side.effective c.filterType c.operator) = false ∧
      c.condition filter options = .error (.invalidOperator
        (side.effective c.filterType c.operator) filter c.field c.filterType side.type)) := by
  rw [← ModelSide.isSome_condition? side options.like c.field]
  unfold condition
  rw [h.target]
  simp only
  cases side.condition? options.like c.field c.filterType
      (side.effective c.filterType c.operator) with
  | some condition => exact .inl ⟨rfl, condition, rfl, rfl⟩
  | none => exact .inr ⟨rfl, rfl⟩

theorem condition_isOk_iff (h : c.Fits side kind) (filter : String) (options : Options) :
    (∃ condition, c.condition filter options = .ok condition) ↔
      side.takes c.filterType (side.effective c.filterType c.operator) = true := by
  rcases h.condition_cases filter options with ⟨htakes, condition, _, hok⟩ | ⟨hrefused, herror⟩
  · exact ⟨fun _ => htakes, fun _ => ⟨_, hok⟩⟩
  · rw [herror, hrefused]
    constructor
    · rintro ⟨_, hok⟩
      cases hok
    · intro habsurd
      cases habsurd

end Criterion.Fits

/-! ## 3. The table -/

namespace Operator

/-- What `auto` stands for between two types: membership where there is a collection, `like` for
    text and equality for the rest. -/
def inferred (filter model : FieldType) : Operator :=
  if filter.isCollection || model.isCollection then .isIn
  else if filter.stripped = .text then .like
  else .equal

/-- The operator that is carried out between two types. -/
def carriedOut (filter model : FieldType) : Operator → Operator
  | .auto => inferred filter model
  | op => op

theorem carriedOut_of_ne {op : Operator} (h : op ≠ .auto) (filter model : FieldType) :
    op.carriedOut filter model = op := by
  cases op with
  | auto => exact absurd rfl h
  | _ => rfl

/-- **The table of operators**, for a filter type and a model type that fit as `kind`. -/
def Suits (filter model : FieldType) (kind : Fit) (nullable : Bool) : Operator → Prop
  | .equal | .notEqual => kind.Scalars model
  | .greaterThan | .greaterOrEqual | .lessThan | .lessOrEqual =>
    kind.Scalars model ∧ model.isOrdered = true
  | .like | .contains | .startsWith | .endsWith => kind.Scalars model ∧ model.stripped = .text
  | .isIn => filter.isCollection = true ∨ model.isCollection = true
  | .isNull | .isNotNull => nullable = true
  | .auto => ¬ (filter.isNested = true ∧ model.isNested = true)

end Operator

namespace Criterion.Fits

variable {c : Criterion} {side : ModelSide} {kind : Fit}

section SinglyOptional

variable (h : c.Fits side kind) (hf : c.filterType.singlyOptional = true)
  (hm : side.type.singlyOptional = true)

include hf hm in
theorem bothLists_of_singlyOptional :
    side.bothLists c.filterType = (c.filterType.isCollection && side.type.isCollection) := by
  rw [bothLists_eq, hf, hm, Bool.and_true, Bool.and_true]

include h in
/-- Scalars that fit are both collections or neither. -/
theorem isCollection_eq (hk : kind.isMembership = false) :
    c.filterType.isCollection = side.type.isCollection := by
  unfold FieldType.isCollection
  rw [Fit.stripped_eq h.found hk]

include h in
/-- Scalars that fit are both nested records or neither. -/
theorem isNested_eq (hk : kind.isMembership = false) :
    c.filterType.isNested = side.type.isNested := by
  unfold FieldType.isNested
  rw [Fit.stripped_eq h.found hk]

include h hf hm in
theorem scalar_iff : side.scalar c.filterType = true ↔
    (kind = .identical ∨ kind = .nullable) ∧ side.type.isCollection = false := by
  rw [h.scalar_eq, bothLists_of_singlyOptional hf hm, ← Fit.isMembership_eq_false_iff]
  cases hk : kind.isMembership with
  | true => simp
  | false => simp [h.isCollection_eq hk]

include h hf hm in
/-- There is a membership to test exactly where there is a collection. -/
theorem anyCollection_eq : (kind.isMembership || side.bothLists c.filterType) =
    (c.filterType.isCollection || side.type.isCollection) := by
  rw [bothLists_of_singlyOptional hf hm]
  cases hk : kind.isMembership with
  | true =>
    rcases Fit.isCollection_of_isMembership h.found hk with hc | hc
    · rw [hc, Bool.true_or, Bool.true_or]
    · rw [hc, Bool.true_or, Bool.or_true]
  | false => rw [h.isCollection_eq hk, Bool.and_self, Bool.or_self, Bool.false_or]

include h hf hm in
/-- **What passes its check is what stands in the table**, `auto` apart. -/
theorem takes_iff_suits {op : Operator} (hop : op ≠ .auto) :
    side.takes c.filterType op = true ↔
      op.Suits c.filterType side.type kind side.nullable := by
  have hscalar := h.scalar_iff hf hm
  -- what has an order is no record, so the question about records adds nothing to the others
  have ordered : ∀ b : Bool, (b = true → side.type.isOrdered = true) →
      (side.scalar c.filterType = true ∧ b = true ↔ kind.Scalars side.type ∧ b = true) := by
    intro b hb
    rw [hscalar]
    refine ⟨fun ⟨⟨hk, hc⟩, ht⟩ => ⟨⟨hk, hc, FieldType.isNested_of_isOrdered (hb ht)⟩, ht⟩,
      fun ⟨⟨hk, hc, _⟩, ht⟩ => ⟨⟨hk, hc⟩, ht⟩⟩
  cases op with
  | auto => exact absurd rfl hop
  | isNull | isNotNull => exact Iff.rfl
  | equal | notEqual =>
    show (side.scalar c.filterType && !side.type.isRecord) = true ↔ kind.Scalars side.type
    rw [Bool.and_eq_true, hscalar, FieldType.isRecord_eq, hm, Bool.and_true, Bool.not_eq_true',
      and_assoc]
    rfl
  | greaterThan | greaterOrEqual | lessThan | lessOrEqual =>
    show (side.scalar c.filterType && side.type.isOrderable) = true ↔
      kind.Scalars side.type ∧ side.type.isOrdered = true
    rw [Bool.and_eq_true, FieldType.isOrderable_eq, hm, Bool.and_true]
    exact ordered _ id
  | like | contains | startsWith | endsWith =>
    show (side.scalar c.filterType && side.type.isText) = true ↔
      kind.Scalars side.type ∧ side.type.stripped = .text
    rw [Bool.and_eq_true, FieldType.isText_eq, hm, Bool.and_true]
    have htext := ordered (decide (side.type.stripped = .text)) fun ht =>
      FieldType.isOrdered_of_text (of_decide_eq_true ht)
    simpa only [decide_eq_true_eq] using htext
  | isIn =>
    show (side.membership? c.filterType).isSome = true ↔ _
    rw [h.isSome_membership?_eq, h.anyCollection_eq hf hm, Bool.or_eq_true]
    rfl

include h hf hm in
/-- **The operator that is carried out is the one that is meant.** -/
theorem effective_eq (op : Operator) :
    side.effective c.filterType op = op.carriedOut c.filterType side.type := by
  cases op with
  | auto =>
    show side.inferred c.filterType = _
    unfold ModelSide.inferred
    rw [h.carried, Option.any_some, Bool.or_comm, h.anyCollection_eq hf hm, FieldType.isText_eq, hf,
      Bool.and_true]
    simp only [decide_eq_true_eq]
    rfl
  | _ => rfl

include h hf hm in
/-- **An operator that is left to be inferred is refused between records only.** -/
theorem takes_inferred_iff :
    side.takes c.filterType (Operator.inferred c.filterType side.type) = true ↔
      ¬ (c.filterType.isNested = true ∧ side.type.isNested = true) := by
  unfold Operator.inferred
  cases hany : c.filterType.isCollection || side.type.isCollection with
  | true =>
    rw [if_pos rfl, h.takes_iff_suits hf hm (by decide)]
    have hcollection := Bool.or_eq_true_iff.mp hany
    refine iff_of_true hcollection fun ⟨hnf, hnm⟩ => ?_
    rcases hcollection with hc | hc
    · rw [FieldType.isNested_of_isCollection hc] at hnf
      cases hnf
    · rw [FieldType.isNested_of_isCollection hc] at hnm
      cases hnm
  | false =>
    obtain ⟨_, hcm⟩ := Bool.or_eq_false_iff.mp hany
    -- without a collection there is no membership, so the two types agree when they are stripped
    have hk : kind.isMembership = false := by
      have hnone := h.anyCollection_eq hf hm
      rw [hany] at hnone
      exact (Bool.or_eq_false_iff.mp hnone).1
    have hsame := Fit.stripped_eq h.found hk
    have hscalars : kind.Scalars side.type ↔ ¬ side.type.isNested = true := by
      rw [Bool.not_eq_true]
      exact ⟨fun hs => hs.2.2, fun hn => ⟨Fit.isMembership_eq_false_iff.mp hk, hcm, hn⟩⟩
    rw [if_neg (by decide), h.isNested_eq hk, and_self]
    split
    · rename_i htext
      rw [hsame] at htext
      have hplain := FieldType.isNested_of_isOrdered (FieldType.isOrdered_of_text htext)
      rw [h.takes_iff_suits hf hm (by decide), hplain]
      exact iff_of_true ⟨hscalars.mpr (by rw [hplain]; decide), htext⟩ (by decide)
    · rw [h.takes_iff_suits hf hm (by decide)]
      exact hscalars

end SinglyOptional

end Criterion.Fits

/-- **The table of operators decides.** For types in which no optional stands directly inside
    another one: a criterion is accepted exactly if its operator suits the two types, a membership
    is tested as the fit says, and the error of a criterion that is not accepted names the operator
    that would have been carried out. -/
theorem Criterion.operator_table {c : Criterion} {side : ModelSide} {kind : Fit}
    (h : c.Fits side kind) (hf : c.filterType.singlyOptional = true)
    (hm : side.type.singlyOptional = true) (filter : String) (options : Options) :
    ((∃ condition, c.condition filter options = .ok condition) ↔
      c.operator.Suits c.filterType side.type kind side.nullable) ∧
    (c.operator = .isIn → ∀ condition, c.condition filter options = .ok condition →
      condition = (Condition.compare kind.membership side.path c.field).negatedIf c.negate) ∧
    (∀ e, c.condition filter options = .error e →
      e = .invalidOperator (c.operator.carriedOut c.filterType side.type) filter c.field
        c.filterType side.type) := by
  refine ⟨?accepted, ?made, ?refused⟩
  case accepted =>
    rw [h.condition_isOk_iff, h.effective_eq hf hm]
    by_cases hop : c.operator = .auto
    · rw [hop]
      exact h.takes_inferred_iff hf hm
    · rw [Operator.carriedOut_of_ne hop]
      exact h.takes_iff_suits hf hm hop
  case made =>
    intro hop condition hok
    rcases h.condition_cases filter options with ⟨_, made, hmade, hdone⟩ | ⟨_, hdone⟩
    · rw [hok] at hdone
      cases hdone
      rw [hop] at hmade
      obtain ⟨cmp, hcmp, rfl⟩ := Option.map_eq_some_iff.mp hmade
      rw [h.eq_membership hcmp]
    · rw [hok] at hdone
      cases hdone
  case refused =>
    intro e he
    rcases h.condition_cases filter options with ⟨_, _, _, hdone⟩ | ⟨_, hdone⟩
    · rw [he] at hdone
      cases hdone
    · rw [he, h.effective_eq hf hm] at hdone
      cases hdone
      rfl

namespace Ticket

/-- Asks for tickets of one of several cities, with an operator to choose, and leaves those out. -/
def citiesCriterion (op : Operator) : Criterion :=
  ⟨"cities", .list .text, op, true, false,
    .model ⟨⟨["owner", "city"]⟩, .optional .text, some (.anyOf true), true⟩⟩

/-- A list of cities takes membership, and takes `like` as little as any list. -/
theorem operator_table_cities :
    let side : ModelSide := ⟨⟨["owner", "city"]⟩, .optional .text, some (.anyOf true), true⟩
    (∀ op, (citiesCriterion op).Fits side (.anyOf true)) ∧
    (FieldType.list .text).singlyOptional = true ∧ side.type.singlyOptional = true ∧
    (citiesCriterion .isIn).condition "TicketFilter" .default =
      .ok (.not (.compare .anyOf side.path "cities")) ∧
    (citiesCriterion .like).condition "TicketFilter" .default =
      .error (.invalidOperator .like "TicketFilter" "cities" (.list .text) (.optional .text)) := by
  intro side
  have hfound : Fit.ofTypes? (.list .text) (.optional .text) = some (.anyOf true) := by decide
  have hfits : ∀ op, (citiesCriterion op).Fits side (.anyOf true) := fun _ => ⟨rfl, hfound, rfl⟩
  refine ⟨hfits, rfl, rfl, ?_, ?_⟩
  · obtain ⟨haccepted, hmade, _⟩ :=
      Criterion.operator_table (hfits .isIn) rfl rfl "TicketFilter" .default
    obtain ⟨condition, hok⟩ := haccepted.mpr (.inl rfl)
    rw [hok, hmade rfl condition hok]
    rfl
  · obtain ⟨haccepted, _, hrefused⟩ :=
      Criterion.operator_table (hfits .like) rfl rfl "TicketFilter" .default
    cases hresult : (citiesCriterion .like).condition "TicketFilter" .default with
    | ok condition =>
      -- a list is no scalar of the text it may hold
      obtain ⟨⟨hk | hk, _⟩, _⟩ := haccepted.mp ⟨condition, hresult⟩ <;> cases hk
    | error e => rw [hrefused e hresult]; rfl

end Ticket

end Sift
