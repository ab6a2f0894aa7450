import Sift.Proofs.NestedOptionals

/-!
# Comparisons between records

Two records are the same only if they are one object, so a record that a filter holds is never the
one it describes. Equality between records is refused for that reason. This file says which
comparisons between records are made all the same.

* `FieldType.isOrdered_eq_false_of_base` -- a type with a record for its base has no order, whatever
  the optionals around it;
* `Fit.SeesCollection` -- the operator check sees that the types are a collection and an element, or
  two collections;
* `Criterion.compares_records_iff` -- records are compared in memberships, wherever the check sees a
  collection, and for equality, where it sees neither a collection nor a record.
-/

namespace Sift

namespace FieldType

variable {t : FieldType} {n : TypeName}

theorem base_stripped (t : FieldType) : t.stripped.base = t.base := by
  induction t with
  | optional t ih => exact ih
  | _ => rfl

/-- What has a record for its base has no order. -/
theorem isOrdered_eq_false_of_base (h : t.base = .record n) : t.isOrdered = false := by
  unfold isOrdered
  rw [← base_stripped] at h
  cases hs : t.stripped with
  | text | number _ | timestamp =>
    rw [hs] at h
    cases h
  | _ => rfl

/-- Nor is it a text. -/
theorem isText_eq_false_of_base (h : t.base = .record n) : t.isText = false := by
  have hplain : t.stripped ≠ .text := by
    intro htext
    have hordered := isOrdered_of_text htext
    rw [isOrdered_eq_false_of_base h] at hordered
    cases hordered
  rw [isText_eq, decide_eq_false hplain, Bool.false_and]

end FieldType

/-- The types are seen to be a collection and what it may hold, or two collections: a second optional
    hides that a type is a collection. -/
def Fit.SeesCollection (filter model : FieldType) (kind : Fit) : Prop :=
  kind.isMembership = true ∨
    (filter.isCollection = true ∧ filter.singlyOptional = true) ∧
      model.isCollection = true ∧ model.singlyOptional = true

namespace Criterion.Fits

variable {c : Criterion} {side : ModelSide} {kind : Fit} {n : TypeName}

/-- There is a membership to test exactly where a collection is seen. -/
theorem seesCollection_iff (h : c.Fits side kind) :
    kind.SeesCollection c.filterType side.type ↔
      (side.membership? c.filterType).isSome = true := by
  unfold Fit.SeesCollection
  rw [h.isSome_membership?_eq, bothLists_eq]
  simp only [Bool.or_eq_true, Bool.and_eq_true]

/-- Scalars are what is not seen to have a collection on either side. -/
theorem scalar_iff_not_seesCollection (h : c.Fits side kind) :
    side.scalar c.filterType = true ↔ ¬ kind.SeesCollection c.filterType side.type := by
  rw [h.seesCollection_iff, h.isSome_membership?_eq, h.scalar_eq]
  cases kind.isMembership <;> cases side.bothLists c.filterType <;> decide

section Records

variable (h : c.Fits side kind) (hrecord : c.filterType.base = .record n)

include h hrecord

theorem base_model : side.type.base = .record n :=
  (Fit.base_of_ofTypes? h.found).symm.trans hrecord

/-- **The operators that pass between records** are membership, where a collection is seen, and
    equality, where neither a collection nor a record is. -/
theorem passes_between_records {like : LikeMode} {op : Operator} {cmp : Comparison} :
    (side.made? like c.filterType op = some cmp ∧ side.takes c.filterType op = true) ↔
      (op = .isIn ∧ kind.SeesCollection c.filterType side.type ∧ cmp = kind.membership) ∨
      ((op = .equal ∨ op = .notEqual) ∧ ¬ kind.SeesCollection c.filterType side.type ∧
        side.type.isRecord = false ∧ cmp = .equal) := by
  have hbase := h.base_model hrecord
  have hordered : side.type.isOrderable = false := by
    rw [FieldType.isOrderable_eq, FieldType.isOrdered_eq_false_of_base hbase, Bool.false_and]
  have htext : side.type.isText = false := FieldType.isText_eq_false_of_base hbase
  cases op with
  | isIn =>
    have hmade : side.membership? c.filterType = some cmp ↔
        kind.SeesCollection c.filterType side.type ∧ cmp = kind.membership := by
      rw [h.seesCollection_iff]
      constructor
      · intro hcmp
        exact ⟨by rw [hcmp]; rfl, h.eq_membership hcmp⟩
      · rintro ⟨hsome, rfl⟩
        obtain ⟨cmp', hcmp⟩ := Option.isSome_iff_exists.mp hsome
        rw [hcmp, h.eq_membership hcmp]
    show side.membership? c.filterType = some cmp ∧
      (side.membership? c.filterType).isSome = true ↔ _
    rw [← h.seesCollection_iff, hmade]
    simp +contextual
  | equal | notEqual =>
    show some Comparison.equal = some cmp ∧
      (side.scalar c.filterType && !side.type.isRecord) = true ↔ _
    rw [Bool.and_eq_true, h.scalar_iff_not_seesCollection, Bool.not_eq_true', Option.some_inj,
      eq_comm, and_comm, and_assoc]
    simp
  | greaterThan | greaterOrEqual | lessThan | lessOrEqual =>
    simp [ModelSide.takes, hordered]
  | like | contains | startsWith | endsWith =>
    simp [ModelSide.takes, htext]
  | isNull | isNotNull | auto =>
    simp [ModelSide.made?, ModelSide.comparison?]

/-- Between records `auto` stands for membership where a collection is seen, and for equality
    elsewhere. -/
theorem inferred_between_records :
    (side.inferred c.filterType = .isIn ∧ kind.SeesCollection c.filterType side.type) ∨
      (side.inferred c.filterType = .equal ∧ ¬ kind.SeesCollection c.filterType side.type) := by
  have hany : (side.bothLists c.filterType || side.fit.any Fit.isMembership) =
      (side.membership? c.filterType).isSome := by
    rw [h.isSome_membership?_eq, h.carried, Option.any_some, Bool.or_comm]
  rw [h.seesCollection_iff]
  unfold ModelSide.inferred
  rw [hany, FieldType.isText_eq_false_of_base hrecord]
  cases (side.membership? c.filterType).isSome with
  | true => exact .inl ⟨rfl, rfl⟩
  | false => exact .inr ⟨rfl, Bool.false_ne_true⟩

end Records

end Criterion.Fits

/-- **Where records are compared.** Between types whose base is a record, a membership is tested
    wherever a collection is seen, if the operator asks for one or is left to be inferred. Equality
    is tested where no collection is seen and the model is not seen to be a record, so it is a second
    optional that hides what they are. No other comparison is made between records. -/
theorem Criterion.compares_records_iff {c : Criterion} {side : ModelSide} {kind : Fit}
    {n : TypeName} {cmp : Comparison} (h : c.Fits side kind)
    (hrecord : c.filterType.base = .record n) (filter : String) (options : Options) :
    (∃ condition, c.condition filter options = .ok condition ∧ condition.Compares cmp) ↔
      ((c.operator = .isIn ∨ c.operator = .auto) ∧
        kind.SeesCollection c.filterType side.type ∧ cmp = kind.membership) ∨
      ((c.operator = .equal ∨ c.operator = .notEqual ∨ c.operator = .auto) ∧
        ¬ kind.SeesCollection c.filterType side.type ∧
        (side.type.isNested = true → side.type.singlyOptional = false) ∧ cmp = .equal) := by
  have hhidden : side.type.isRecord = false ↔
      (side.type.isNested = true → side.type.singlyOptional = false) := by
    rw [FieldType.isRecord_eq]
    cases side.type.isNested <;> cases side.type.singlyOptional <;> decide
  rw [h.compares_iff, h.passes_between_records hrecord, hhidden]
  cases hop : c.operator with
  | auto =>
    show side.inferred c.filterType = .isIn ∧ _ ∨
      (side.inferred c.filterType = .equal ∨ side.inferred c.filterType = .notEqual) ∧ _ ↔ _
    rcases h.inferred_between_records hrecord with ⟨hinferred, hsees⟩ | ⟨hinferred, hsees⟩
    · simp [hinferred, hsees]
    · simp [hinferred, hsees]
  | _ => simp [ModelSide.effective]

namespace Ticket

/-- Owners to choose from are looked for in a membership, although no operator is named; and where
    two optionals hide the owner, equality is tested. -/
theorem compares_records_iff_owners :
    let person := FieldType.record ⟨"Person"⟩
    let hidden := FieldType.optional (.optional person)
    let side : ModelSide := ⟨.single "owner", person, some (.anyOf false), false⟩
    let listed : Criterion := ⟨"owner", .list person, .auto, false, true, .model side⟩
    let side' : ModelSide := ⟨.single "owner", hidden, some .identical, true⟩
    let equal : Criterion := ⟨"owner", hidden, .equal, false, true, .model side'⟩
    (listed.Fits side (.anyOf false) ∧ listed.filterType.base = person ∧
      ∃ condition, listed.condition "OwnerFilter" .default = .ok condition ∧
        condition.Compares .anyOf) ∧
    (equal.Fits side' .identical ∧ equal.filterType.base = person ∧
      ∃ condition, equal.condition "OwnerFilter" .default = .ok condition ∧
        condition.Compares .equal) := by
  intro person hidden side listed side' equal
  have hlisted : listed.Fits side (.anyOf false) := ⟨rfl, by decide, rfl⟩
  have hequal : equal.Fits side' .identical := ⟨rfl, by decide, rfl⟩
  refine ⟨⟨hlisted, rfl, ?_⟩, hequal, rfl, ?_⟩
  · exact (Criterion.compares_records_iff hlisted rfl "OwnerFilter" .default).mpr
      (.inl ⟨.inr rfl, .inl rfl, rfl⟩)
  · refine (Criterion.compares_records_iff hequal rfl "OwnerFilter" .default).mpr
      (.inr ⟨.inl rfl, ?_, fun _ => rfl, rfl⟩)
    rintro (hmembership | ⟨⟨hcollection, _⟩, _⟩)
    · cases hmembership
    · cases hcollection

/-- **A comparison between records that is decided by identity**: the filter lists an owner with the
    same contents as the owner of the ticket, and does not find the ticket. -/
theorem owner_by_identity :
    let person := FieldType.record ⟨"Person"⟩
    let side : ModelSide := ⟨.single "owner", person, some (.anyOf false), false⟩
    let c : Criterion := ⟨"owner", .list person, .auto, false, true, .model side⟩
    c.Fits side (.anyOf false) ∧ c.filterType.base = person ∧
      c.condition "OwnerFilter" .default = .ok (.compare .anyOf (.single "owner") "owner") ∧
      ∀ fields : List (String × Value),
        Comparison.anyOf.eval (.record ⟨1, true, fields⟩) (.list [.record ⟨2, true, fields⟩]) =
          false :=
  ⟨⟨rfl, by decide, rfl⟩, rfl, rfl, fun _ => rfl⟩

end Ticket

end Sift
