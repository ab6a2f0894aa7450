import Sift.Proofs.Meaning

/-!
# What holds of an absent value

Two absent values are equal, and an absent value has no order and no text. Memberships are tested by
equality, element by element, so they depend on what the collection holds: an absent value is an
element of a list that has one.

* `Value.ListsAbsent` -- a list with an absent element;
* `Comparison.HoldsOfAbsent` -- what each comparison asks of two values of which one is absent;
* `Comparison.eval_of_absent` -- it is what the comparison answers. Apart from equality a membership
  is all that can hold, and only where the collection lists an absent value.
-/

namespace Sift

namespace Value

variable {v : Value}

/-- A list with an absent element. -/
def ListsAbsent (v : Value) : Prop :=
  ∃ items, v = .list items ∧ Value.absent ∈ items

theorem sameAs_absent_iff : v.sameAs .absent = true ↔ v = .absent := by
  cases v <;> simp [sameAs]

theorem absent_sameAs_iff : Value.absent.sameAs v = true ↔ v = .absent := by
  cases v <;> simp [sameAs]

theorem absent_compare? : Value.absent.compare? v = none := by
  cases v <;> rfl

theorem compare?_absent : v.compare? .absent = none := by
  cases v <;> rfl

/-- An absent value is an element of the lists that hold one. -/
theorem hasElement_absent_iff : v.HasElement .absent ↔ v.ListsAbsent := by
  unfold HasElement ListsAbsent
  simp only [sameAs_absent_iff, exists_eq_right]

/-- No list is absent. -/
theorem not_listsAbsent_absent : ¬ Value.absent.ListsAbsent := by
  rintro ⟨items, habsurd, _⟩
  cases habsurd

theorem not_hasElement_of_absent {w : Value} : ¬ Value.absent.HasElement w := by
  rintro ⟨items, habsurd, _⟩
  cases habsurd

end Value

namespace Comparison

variable {m v : Value}

/-- What a comparison asks of a model value and a filter value of which one at least is absent. -/
def HoldsOfAbsent (m v : Value) : Comparison → Prop
  | .equal => m = .absent ∧ v = .absent
  | .anyOf => m = .absent ∧ v.ListsAbsent
  | .includes => v = .absent ∧ m.ListsAbsent
  | _ => False

/-- Where one of two values is absent there is no order between them. -/
theorem compare?_of_absent (h : m = .absent ∨ v = .absent) : m.compare? v = none := by
  rcases h with rfl | rfl
  · exact Value.absent_compare?
  · exact Value.compare?_absent

/-- A test of two texts fails where one of them is absent. -/
theorem onText_of_absent (test : String → String → Bool) (h : m = .absent ∨ v = .absent) :
    onText test m v = false := by
  rcases h with rfl | rfl
  · rfl
  · cases m <;> rfl

/-- A membership between an absent value and a collection: the absent value is the element. -/
theorem hasElement_of_absent {collection element : Value}
    (h : element = .absent ∨ collection = .absent) :
    collection.HasElement element ↔ element = .absent ∧ collection.ListsAbsent := by
  rcases h with rfl | rfl
  · rw [Value.hasElement_absent_iff, eq_self_iff_true, true_and]
  · exact iff_of_false Value.not_hasElement_of_absent fun h => Value.not_listsAbsent_absent h.2

/-- **What holds of an absent value.** If one of two values is absent, equality holds exactly if the
    other is absent too, a membership exactly if it is the collection that is there and it lists an
    absent value, and no other comparison holds. -/
theorem eval_of_absent (cmp : Comparison) (h : m = .absent ∨ v = .absent) :
    cmp.eval m v = true ↔ cmp.HoldsOfAbsent m v := by
  have hcompare := compare?_of_absent h
  have htext := fun test => onText_of_absent test h
  cases cmp with
  | equal =>
    show m.sameAs v = true ↔ m = .absent ∧ v = .absent
    rcases h with rfl | rfl
    · rw [Value.absent_sameAs_iff, eq_self_iff_true, true_and]
    · rw [Value.sameAs_absent_iff, eq_self_iff_true, and_true]
  | anyOf => exact list?_any_hasSame_iff.trans (hasElement_of_absent h)
  | includes => exact list?_any_hasSame_iff.trans (hasElement_of_absent h.symm)
  | overlaps =>
    rw [eval_overlaps_iff]
    refine iff_of_false ?_ id
    rintro ⟨items, rfl, y, _, hy⟩
    obtain rfl : m = .absent := h.resolve_right (by simp)
    exact Value.not_hasElement_of_absent hy
  | greater | greaterOrEqual | less | lessOrEqual =>
    simp [eval, HoldsOfAbsent, hcompare]
  | contains | containsIgnoreCase | startsWith | endsWith =>
    simp [eval, HoldsOfAbsent, htext]

end Comparison

namespace Ticket

/-- A missing city is found among cities of which one is missing, and nothing at all holds between it
    and a city that is there. -/
theorem eval_of_absent_city :
    let cities := Value.list [.text "Rome", .absent]
    (Value.absent = .absent ∨ cities = .absent) ∧
      Comparison.anyOf.eval .absent cities = true ∧
      ∀ cmp : Comparison, cmp.eval .absent (.text "Rome") = false := by
  intro cities
  refine ⟨.inl rfl, ?_, fun cmp => ?_⟩
  · exact (Comparison.eval_of_absent .anyOf (.inl rfl)).mpr ⟨rfl, _, rfl, by simp⟩
  · rw [← Bool.not_eq_true, Comparison.eval_of_absent cmp (.inl rfl)]
    cases cmp <;> simp [Comparison.HoldsOfAbsent, Value.ListsAbsent]

/-- **An absent value satisfies a membership**, although it is none of the values that are there. -/
theorem absent_among_absent :
    Comparison.anyOf.eval .absent (.list [.absent]) = true ∧
      Comparison.includes.eval (.list [.absent]) .absent = true := by
  decide

end Ticket

end Sift
