import Sift.Proofs.Fits

/-!
# Fits with the two sides exchanged

Near types are near whichever comes first, and a list of what the other side holds is one whichever
side it stands on. So one expects to find the mirrored fit when filter and model exchange their
roles. The rules are tried in order, however, and the first of the two for memberships decides alone
as soon as it may be asked. This file says where that shows.

* `Fit.elementsAgainst?` -- the elements of one type that the rules look for in the other one;
* `Fit.ofTypes?_of_apart` -- the two rules for memberships, for types that are not near;
* `FieldType.ListsOptional` -- an optional list whose elements are near to another optional list.
  Both rules may be asked about such a pair, and the order of the two sides decides which is;
* `Fit.mirrored_iff` -- every other pair of types has the mirrored fit when it is exchanged, and of
  such a pair one order has none.
-/

namespace Sift

/-! ## 1. The rules on exchanged types -/

theorem FieldType.Near.symm {a b : FieldType} (h : a.Near b) : b.Near a := by
  rcases h with h | h | h
  · exact .inl h.symm
  · exact .inr (.inr h)
  · exact .inr (.inl h)

namespace Fit

open FieldType

variable {a b : FieldType}

theorem nullablePair_comm (a b : FieldType) : nullablePair a b = nullablePair b a :=
  Bool.or_comm _ _

theorem element?_comm (a b : FieldType) : element? a b = element? b a := by
  unfold element?
  rw [nullablePair_comm a b]
  simp only [eq_comm]

/-- An element and a scalar are found to fit exactly if they are near. -/
theorem isSome_element?_iff : (element? a b).isSome = true ↔ a.Near b := by
  constructor
  · intro h
    obtain ⟨n, hn⟩ := Option.isSome_iff_exists.mp h
    exact near_of_element? hn
  · intro h
    unfold element?
    by_cases hab : a = b
    · rw [if_pos hab]
      rfl
    · have hpair : nullablePair a b = true := by
        simpa [nullablePair] using h.resolve_left hab
      rw [if_neg hab, if_pos hpair]
      rfl

/-- The elements of `a` that are looked for in `b`, where `b` is not a list itself. -/
def elementsAgainst? (a b : FieldType) : Option FieldType :=
  if b.isList then none else a.element?

/-- **What is left to the rules for memberships**: first the filter is taken for a list of what the
    model holds, and only if that cannot be asked, the model for a list of what the filter holds. -/
theorem ofTypes?_of_apart (h : ¬ a.Near b) :
    ofTypes? a b =
      match elementsAgainst? a b with
      | some e => (element? e b).map .anyOf
      | none => (elementsAgainst? b a).bind fun e => (element? a e).map .includes := by
  have hne : a ≠ b := fun hab => h (.inl hab)
  have hpair : nullablePair a b = false :=
    Bool.eq_false_iff.mpr fun hpair => h (near_of_nullablePair hpair)
  unfold ofTypes?
  rw [if_neg hne, if_neg (by rw [hpair]; decide)]
  show (match elementsAgainst? a b with
    | some e => (element? e b).map anyOf
    | none =>
      match elementsAgainst? b a with
      | some e => (element? a e).map includes
      | none => none) = _
  cases elementsAgainst? a b with
  | some e => rfl
  | none => cases elementsAgainst? b a <;> rfl

/-- Near types have the same fit in both orders, and it is its own mirror image. -/
theorem ofTypes?_of_near (h : a.Near b) : ofTypes? b a = (ofTypes? a b).map mirrored := by
  unfold ofTypes?
  by_cases hab : a = b
  · rw [if_pos hab, if_pos hab.symm]
    rfl
  · have hpair : nullablePair a b = true := by
      simpa [nullablePair] using h.resolve_left hab
    rw [if_neg hab, if_neg (Ne.symm hab), nullablePair_comm b a, if_pos hpair, if_pos hpair]
    rfl

end Fit

/-! ## 2. Optional lists of optional lists -/

namespace FieldType

variable {a b : FieldType}

/-- `a` and `b` are optional lists, and the elements of `a` are near to `b`. -/
def ListsOptional (a b : FieldType) : Prop :=
  ∃ e e', a = .optional (.list e) ∧ b = .optional (.list e') ∧ e.Near b

/-- The list has one layer more than what it lists. -/
theorem ListsOptional.layers_eq (h : a.ListsOptional b) : a.layers = b.layers + 1 := by
  obtain ⟨e, e', rfl, rfl, hnear⟩ := h
  have hlayers : e.layers = e'.layers + 1 := hnear.layers_eq
  show e.layers + 1 = e'.layers + 1 + 1
  omega

theorem ListsOptional.not_near (h : a.ListsOptional b) : ¬ a.Near b := by
  intro hnear
  have hsame := hnear.layers_eq
  have hmore := h.layers_eq
  omega

end FieldType

namespace Fit

open FieldType

variable {a b : FieldType}

/-- **Both rules for memberships may be asked only between optional lists.** -/
theorem optional_of_elementsAgainst? {e e' : FieldType} (h : elementsAgainst? a b = some e)
    (h' : elementsAgainst? b a = some e') :
    a = .optional (.list e) ∧ b = .optional (.list e') := by
  obtain ⟨hb, ha⟩ := Option.ite_none_left_eq_some.mp h
  obtain ⟨ha', hb'⟩ := Option.ite_none_left_eq_some.mp h'
  constructor
  · rcases element?_eq_some_iff.mp ha with rfl | rfl
    · exact absurd rfl ha'
    · rfl
  · rcases element?_eq_some_iff.mp hb' with rfl | rfl
    · exact absurd rfl hb
    · rfl

/-- **One order of such a pair fits and the other does not**: the list has to be the filter. -/
theorem ofTypes?_of_listsOptional (h : a.ListsOptional b) :
    ∃ n, ofTypes? a b = some (.anyOf n) ∧ ofTypes? b a = none := by
  have hapart : ¬ a.Near b := h.not_near
  have hlayers := h.layers_eq
  obtain ⟨e, e', rfl, rfl, hnear⟩ := h
  obtain ⟨n, hn⟩ := Option.isSome_iff_exists.mp (isSome_element?_iff.mpr hnear)
  refine ⟨n, ?_, ?_⟩
  · rw [ofTypes?_of_apart hapart]
    show (element? e (.optional (.list e'))).map anyOf = _
    rw [hn]
    rfl
  · -- with the roles exchanged the elements of the listed type are looked for, and are too small
    have hnone : element? e' (.optional (.list e)) = none := by
      rw [← Option.not_isSome_iff_eq_none, isSome_element?_iff]
      intro hnear'
      have hless : e'.layers = e.layers + 1 := hnear'.layers_eq
      have hmore : e.layers + 1 = e'.layers + 1 + 1 := hlayers
      omega
    rw [ofTypes?_of_apart fun hnear' => hapart hnear'.symm]
    show (element? e' (.optional (.list e))).map anyOf = _
    rw [hnone]
    rfl

/-- Every other pair of types fits the same way in both orders. -/
theorem ofTypes?_exchanged (hab : ¬ a.ListsOptional b) (hba : ¬ b.ListsOptional a) :
    ofTypes? b a = (ofTypes? a b).map mirrored := by
  by_cases hnear : a.Near b
  · exact ofTypes?_of_near hnear
  · rw [ofTypes?_of_apart hnear, ofTypes?_of_apart fun h => hnear h.symm]
    cases ha : elementsAgainst? a b with
    | none =>
      cases hb : elementsAgainst? b a with
      | none => rfl
      | some e' =>
        simp only [Option.bind_some, Option.map_map]
        rw [element?_comm e' a]
        rfl
    | some e =>
      cases hb : elementsAgainst? b a with
      | none =>
        simp only [Option.bind_some, Option.map_map]
        rw [element?_comm e b]
        rfl
      | some e' =>
        -- both rules may be asked; as neither side lists the other, neither finds anything
        obtain ⟨rfl, rfl⟩ := optional_of_elementsAgainst? ha hb
        have hnone : element? e (.optional (.list e')) = none := by
          rw [← Option.not_isSome_iff_eq_none, isSome_element?_iff]
          exact fun h => hab ⟨e, e', rfl, rfl, h⟩
        have hnone' : element? e' (.optional (.list e)) = none := by
          rw [← Option.not_isSome_iff_eq_none, isSome_element?_iff]
          exact fun h => hba ⟨e', e, rfl, rfl, h⟩
        simp only [hnone, hnone']
        rfl

/-- **Exchanged types have the mirrored fit**, except where both are optional lists and one of them
    lists what the other is. Then the list fits as a filter, and as a model it does not fit at
    all. -/
theorem mirrored_iff (a b : FieldType) :
    (ofTypes? b a = (ofTypes? a b).map mirrored ↔ ¬ (a.ListsOptional b ∨ b.ListsOptional a)) ∧
    (a.ListsOptional b → ∃ n, ofTypes? a b = some (.anyOf n) ∧ ofTypes? b a = none) := by
  refine ⟨⟨?_, ?_⟩, ofTypes?_of_listsOptional⟩
  · rintro hmirrored (h | h)
    · obtain ⟨n, hfound, hnone⟩ := ofTypes?_of_listsOptional h
      rw [hfound, hnone] at hmirrored
      cases hmirrored
    · obtain ⟨n, hfound, hnone⟩ := ofTypes?_of_listsOptional h
      rw [hfound, hnone] at hmirrored
      cases hmirrored
  · intro h
    exact ofTypes?_exchanged (fun hab => h (.inl hab)) (fun hba => h (.inr hba))

end Fit

namespace Ticket

/-- Optional lists of labels and optional lists of such lists: a filter with the longer type
    searches a model with the shorter one. -/
theorem mirrored_iff_labels :
    let labels := FieldType.optional (.list .text)
    let groups := FieldType.optional (.list (.list .text))
    groups.ListsOptional labels ∧
      ∃ n, Fit.ofTypes? groups labels = some (.anyOf n) ∧ Fit.ofTypes? labels groups = none := by
  intro labels groups
  have hlists : groups.ListsOptional labels :=
    ⟨.list .text, .text, rfl, rfl, .inr (.inr rfl)⟩
  exact ⟨hlists, (Fit.mirrored_iff groups labels).2 hlists⟩

/-- **A fit that is lost when the roles are exchanged.** The model has groups of labels and the
    filter one group to find among them, but the filter's labels are looked for first. -/
theorem unmirrored_labels :
    Fit.ofTypes? (.optional (.list (.list .text))) (.optional (.list .text)) =
      some (.anyOf true) ∧
    Fit.ofTypes? (.optional (.list .text)) (.optional (.list (.list .text))) = none := by
  decide

end Ticket

end Sift
