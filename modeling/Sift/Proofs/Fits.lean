import Sift.Fit

/-!
# What a fit says about two types

A fit is found by trying rules in order. Whatever rule decides, the two types are NEAR each other,
or one is near the elements of the other: near types are equal or differ by one `optional`. Two
measures of a type follow from that:

* `base` -- the type without its lists and optionals, the same on both sides of every fit;
* `layers` -- the number of lists around the base. The side of a membership that is the collection
  has exactly one layer more than the other (`Fit.layers_of_ofTypes?`).
-/

namespace Sift

namespace FieldType

/-- The type that is left when every `optional` and every list is taken away. -/
def base : FieldType → FieldType
  | .optional t => t.base
  | .list t => t.base
  | t => t

/-- How many lists stand around the base. -/
def layers : FieldType → Nat
  | .optional t => t.layers
  | .list t => t.layers + 1
  | _ => 0

/-- Equal, or one is the other inside one `optional`. -/
def Near (a b : FieldType) : Prop :=
  a = b ∨ a = .optional b ∨ b = .optional a

theorem Near.base_eq {a b : FieldType} (h : Near a b) : a.base = b.base := by
  rcases h with rfl | rfl | rfl <;> rfl

theorem Near.layers_eq {a b : FieldType} (h : Near a b) : a.layers = b.layers := by
  rcases h with rfl | rfl | rfl <;> rfl

theorem base_of_element? {t e : FieldType} (h : t.element? = some e) : t.base = e.base := by
  rcases element?_eq_some_iff.mp h with rfl | rfl <;> rfl

theorem layers_of_element? {t e : FieldType} (h : t.element? = some e) :
    t.layers = e.layers + 1 := by
  rcases element?_eq_some_iff.mp h with rfl | rfl <;> rfl

end FieldType

namespace Fit

open FieldType

theorem near_of_nullablePair {a b : FieldType} (h : nullablePair a b = true) : Near a b := by
  simp only [nullablePair, Bool.or_eq_true, beq_iff_eq] at h
  exact .inr h

theorem near_of_element? {a b : FieldType} {n : Bool} (h : element? a b = some n) : Near a b := by
  unfold element? at h
  split at h
  · exact .inl ‹a = b›
  · split at h
    · exact near_of_nullablePair ‹_›
    · cases h

/-- What a fit of a filter type with a model type says about the two. -/
def Says (filter model : FieldType) : Fit → Prop
  | .identical | .nullable => Near filter model
  | .anyOf _ => ∃ e, filter.element? = some e ∧ Near e model
  | .includes _ => ∃ e, model.element? = some e ∧ Near filter e

/-- **A fit that is found says the truth.** -/
theorem says_of_ofTypes? {filter model : FieldType} {k : Fit}
    (h : ofTypes? filter model = some k) : k.Says filter model := by
  unfold ofTypes? at h
  split at h
  · cases h
    exact .inl ‹filter = model›
  · split at h
    · cases h
      exact near_of_nullablePair ‹_›
    · split at h
      · rename_i e he
        obtain ⟨n, hn, rfl⟩ := Option.map_eq_some_iff.mp h
        refine ⟨e, ?_, near_of_element? hn⟩
        split at he
        · cases he
        · exact he
      · split at h
        · rename_i e he
          obtain ⟨n, hn, rfl⟩ := Option.map_eq_some_iff.mp h
          refine ⟨e, ?_, near_of_element? hn⟩
          split at he
          · cases he
          · exact he
        · cases h

/-- **The two sides of a fit have the same base.** -/
theorem base_of_ofTypes? {filter model : FieldType} {k : Fit}
    (h : ofTypes? filter model = some k) : filter.base = model.base := by
  have hs := says_of_ofTypes? h
  cases k with
  | identical => exact Near.base_eq hs
  | nullable => exact Near.base_eq hs
  | anyOf n =>
    obtain ⟨e, he, hnear⟩ := hs
    exact (base_of_element? he).trans hnear.base_eq
  | includes n =>
    obtain ⟨e, he, hnear⟩ := hs
    exact hnear.base_eq.trans (base_of_element? he).symm

/-- **The collection of a membership has one list more.** -/
theorem layers_of_ofTypes? {filter model : FieldType} {k : Fit}
    (h : ofTypes? filter model = some k) :
    match k with
    | .identical | .nullable => filter.layers = model.layers
    | .anyOf _ => filter.layers = model.layers + 1
    | .includes _ => model.layers = filter.layers + 1 := by
  have hs := says_of_ofTypes? h
  cases k with
  | identical => exact Near.layers_eq hs
  | nullable => exact Near.layers_eq hs
  | anyOf n =>
    obtain ⟨e, he, hnear⟩ := hs
    show filter.layers = model.layers + 1
    rw [layers_of_element? he, hnear.layers_eq]
  | includes n =>
    obtain ⟨e, he, hnear⟩ := hs
    show model.layers = filter.layers + 1
    rw [layers_of_element? he, hnear.layers_eq]

end Fit

end Sift
