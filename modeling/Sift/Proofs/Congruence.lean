import Mathlib.Data.List.Forall2
import Sift.Proofs.Representations

/-!
# Equality of values as a congruence

Values are scalars and, to any depth, lists of values. A relation between numbers generates a
congruence of values: scalars that are not numbers are related when they are the same, and lists
place by place. Two equalities are compared with congruences here:

* `Value.Congruent` -- the congruence a relation between numbers generates;
* `Value.sameAs_iff_congruent` -- the equality of comparisons is the congruence generated by the
  numbers that the order finds equal;
* `Value.structural_iff` -- the equality of values is the congruence generated by the equality of
  numbers, except for lists that hold numbers of two representations at one place. Inside a list it
  is the equality of comparisons.
-/

namespace Sift

namespace Value

/-- The value at a place inside lists: an element of a list, an element of an element, and so on. -/
def at? (v : Value) : List Nat → Option Value
  | [] => some v
  | i :: rest =>
    match v with
    | .list items => items[i]?.bind fun item => item.at? rest
    | _ => none

/-- Two values that are not lists, and are the same up to a relation between numbers. Records are
    the same by their identity. -/
def ScalarsRelated (R : Number → Number → Prop) : Value → Value → Prop
  | .text a, .text b => a = b
  | .number a, .number b => R a b
  | .timestamp a, .timestamp b => a = b
  | .enum a, .enum b => a = b
  | .bool a, .bool b => a = b
  | .record a, .record b => a.identity = b.identity
  | .absent, .absent => True
  | _, _ => False

/-- The congruence of values that a relation between numbers generates: values that are not lists
    are the same up to the relation, and lists are related place by place. -/
inductive Congruent (R : Number → Number → Prop) : Value → Value → Prop
  | scalars {a b : Value} (h : ScalarsRelated R a b) : Congruent R a b
  | lists {as bs : List Value} (h : List.Forall₂ (Congruent R) as bs) :
      Congruent R (.list as) (.list bs)

/-- What holds of every value that is not a list, and of a list if it does of its elements, holds of
    every value. -/
theorem inductionOnLists {P : Value → Prop} (scalar : ∀ v, v.list? = none → P v)
    (list : ∀ items, (∀ v ∈ items, P v) → P (.list items)) : ∀ v, P v
  | .list items => list items fun v _ => inductionOnLists scalar list v
  | .text _ => scalar _ rfl
  | .number _ => scalar _ rfl
  | .timestamp _ => scalar _ rfl
  | .enum _ => scalar _ rfl
  | .bool _ => scalar _ rfl
  | .record _ => scalar _ rfl
  | .absent => scalar _ rfl

variable {R : Number → Number → Prop} {a b : Value} {as bs : List Value}

theorem allSame_iff : allSame as bs = true ↔ List.Forall₂ (fun x y => x.sameAs y = true) as bs := by
  induction as generalizing bs with
  | nil => cases bs <;> simp [allSame]
  | cons a as ih => cases bs <;> simp [allSame, ih]

theorem congruent_lists_iff :
    Congruent R (.list as) (.list bs) ↔ List.Forall₂ (Congruent R) as bs := by
  constructor
  · intro h
    cases h with
    | scalars h => cases h
    | lists h => exact h
  · exact .lists

theorem congruent_scalars_iff (h : a.list? = none) : Congruent R a b ↔ ScalarsRelated R a b := by
  constructor
  · intro hcongruent
    cases hcongruent with
    | scalars h => exact h
    | lists _ => cases h
  · exact .scalars

/-- Outside lists a value is the same as another one up to numbers that the order finds equal. -/
theorem sameAs_scalars_iff (h : a.list? = none) :
    a.sameAs b = true ↔ ScalarsRelated (fun x y => x.compare? y = some .eq) a b := by
  cases a <;> cases b <;> simp_all [sameAs, ScalarsRelated, list?]

/-- Outside lists a value is equal to another one up to numbers that are equal. -/
theorem beq_scalars_iff (h : a.list? = none) :
    a.beq b = true ↔ ScalarsRelated (fun x y => x.beq y = true) a b := by
  cases a <;> cases b <;> simp_all [beq, sameAs, ScalarsRelated, list?]

/-- Two lists of one length are related place by place when any two elements at one place are. -/
theorem forall₂_iff_getElem? {α β : Type} {Q : α → β → Prop} {xs : List α} {ys : List β} :
    List.Forall₂ Q xs ys ↔
      xs.length = ys.length ∧ ∀ (i : Nat) x y, xs[i]? = some x → ys[i]? = some y → Q x y := by
  rw [List.forall₂_iff_get]
  refine and_congr_right fun _ => ⟨fun h i x y hx hy => ?_, fun h i hx hy => ?_⟩
  · obtain ⟨hi, rfl⟩ := List.getElem?_eq_some_iff.mp hx
    obtain ⟨hi', rfl⟩ := List.getElem?_eq_some_iff.mp hy
    exact h i hi hi'
  · exact h i _ _ (List.getElem?_eq_getElem hx) (List.getElem?_eq_getElem hy)

/-- **To be the same is the congruence of numbers that the order finds equal.** -/
theorem sameAs_iff_congruent :
    a.sameAs b = true ↔ Congruent (fun x y => x.compare? y = some .eq) a b := by
  induction a using inductionOnLists generalizing b with
  | scalar a h => rw [sameAs_scalars_iff h, congruent_scalars_iff h]
  | list items ih =>
    cases b with
    | list items' =>
      rw [congruent_lists_iff, forall₂_iff_getElem?]
      show allSame items items' = true ↔ _
      rw [allSame_iff, forall₂_iff_getElem?]
      refine and_congr_right fun _ => forall₄_congr fun i x y hx => ?_
      rw [ih x (List.mem_of_getElem? hx)]
    | _ => exact iff_of_false (by simp [sameAs]) (by rintro ⟨⟨⟩⟩)

/-- The representations of the numbers that stand at one place in both values agree. -/
def Represented (a b : Value) : Prop :=
  ∀ place x y, a.at? place = some (.number x) → b.at? place = some (.number y) →
    x.numberClass = y.numberClass

theorem represented_lists_iff : Represented (.list as) (.list bs) ↔
    ∀ (i : Nat) x y, as[i]? = some x → bs[i]? = some y → Represented x y := by
  constructor
  · intro h i x y hx hy place n m hn hm
    refine h (i :: place) n m ?_ ?_
    · rw [at?, hx]
      exact hn
    · rw [at?, hy]
      exact hm
  · intro h place n m hn hm
    cases place with
    | nil => cases hn
    | cons i place =>
      obtain ⟨x, hx, hn⟩ := Option.bind_eq_some_iff.mp hn
      obtain ⟨y, hy, hm⟩ := Option.bind_eq_some_iff.mp hm
      exact h i x y hx hy place n m hn hm

/-- Outside lists there is one place only. -/
theorem represented_of_scalar (h : a.list? = none)
    (hnumbers : ∀ x y, a = .number x → b = .number y → x.numberClass = y.numberClass) :
    Represented a b := by
  intro place x y hx hy
  cases place with
  | nil =>
    cases hx
    cases hy
    exact hnumbers x y rfl rfl
  | cons i place =>
    cases a with
    | list _ => cases h
    | _ => cases hx

/-- Equal numbers are numbers in one representation that the order finds equal, and so the
    congruence of the ones is a part of the congruence of the others. -/
theorem congruent_beq_iff :
    Congruent (fun x y => x.beq y = true) a b ↔
      Congruent (fun x y => x.compare? y = some .eq) a b ∧ Represented a b := by
  induction a using inductionOnLists generalizing b with
  | scalar a h =>
    rw [congruent_scalars_iff h, congruent_scalars_iff h]
    constructor
    · intro hscalars
      refine ⟨?_, represented_of_scalar h fun x y hx hy => ?_⟩
      · cases a <;> cases b <;> simp_all [ScalarsRelated, Number.beq_iff]
      · subst hx hy
        exact ((Number.beq_iff x y).mp hscalars).1
    · rintro ⟨hscalars, hrepresented⟩
      cases a with
      | number x =>
        cases b with
        | number y => exact (Number.beq_iff x y).mpr ⟨hrepresented [] x y rfl rfl, hscalars⟩
        | _ => cases hscalars
      | _ => cases b <;> exact hscalars
  | list items ih =>
    cases b with
    | list items' =>
      rw [congruent_lists_iff, congruent_lists_iff, represented_lists_iff,
        forall₂_iff_getElem?, forall₂_iff_getElem?, and_assoc]
      refine and_congr_right fun _ => ?_
      constructor
      · intro h
        exact ⟨fun i x y hx hy => ((ih x (List.mem_of_getElem? hx)).mp (h i x y hx hy)).1,
          fun i x y hx hy => ((ih x (List.mem_of_getElem? hx)).mp (h i x y hx hy)).2⟩
      · rintro ⟨hcongruent, hrepresented⟩ i x y hx hy
        exact (ih x (List.mem_of_getElem? hx)).mpr
          ⟨hcongruent i x y hx hy, hrepresented i x y hx hy⟩
    | _ => exact iff_of_false (by rintro ⟨⟨⟩⟩) (by rintro ⟨⟨⟨⟩⟩, _⟩)

/-- **How far the equality of values is structural.** Outside lists it is the congruence that the
    equality of numbers generates. Two lists are equal when they have one length and their elements
    are the same place by place, in the sense of comparisons: to be the same is the congruence of
    numbers that the order finds equal, at every depth. So values are congruent by the equality of
    numbers exactly when they are equal and the numbers at one place share their representation. -/
theorem structural_iff (a b : Value) :
    (a.list? = none →
      (a.beq b = true ↔ Congruent (fun x y => x.beq y = true) a b)) ∧
    (∀ as bs, a = .list as → b = .list bs →
      (a.beq b = true ↔ List.Forall₂ (fun x y => x.sameAs y = true) as bs)) ∧
    (a.sameAs b = true ↔ Congruent (fun x y => x.compare? y = some .eq) a b) ∧
    (Congruent (fun x y => x.beq y = true) a b ↔ a.beq b = true ∧ Represented a b) := by
  have hscalar : a.list? = none →
      (a.beq b = true ↔ Congruent (fun x y => x.beq y = true) a b) := fun h =>
    (beq_scalars_iff h).trans (congruent_scalars_iff h).symm
  refine ⟨hscalar, ?lists, sameAs_iff_congruent, ?represented⟩
  case lists =>
    rintro as bs rfl rfl
    exact allSame_iff
  case represented =>
    cases hlist : a.list? with
    | none =>
      rw [hscalar hlist]
      exact (and_iff_left_of_imp fun h => (congruent_beq_iff.mp h).2).symm
    | some items =>
      obtain ⟨items, rfl⟩ : ∃ items, a = .list items := by cases a <;> simp_all [list?]
      rw [congruent_beq_iff, ← sameAs_iff_congruent]
      rfl

/-- Lists of lists of signed numbers are equal structurally, lists of signed and unsigned ones are
    equal without being congruent. -/
theorem structural_iff_nested :
    let signed := Value.list [.list [.number (.signed 5)]]
    let unsigned := Value.list [.list [.number (.unsigned 5)]]
    Congruent (fun x y => x.beq y = true) signed signed ∧ signed.beq unsigned = true ∧
      ¬ Congruent (fun x y => x.beq y = true) signed unsigned ∧
      (Value.number (.signed 5)).list? = none ∧
      ¬ Congruent (fun x y => x.beq y = true) (.number (.signed 5)) (.number (.unsigned 5)) := by
  intro signed unsigned
  obtain ⟨_, hlists, _, hself⟩ := structural_iff signed signed
  obtain ⟨_, _, _, hmixed⟩ := structural_iff signed unsigned
  obtain ⟨hscalar, _⟩ := structural_iff (.number (.signed 5)) (.number (.unsigned 5))
  refine ⟨hself.mpr ⟨by decide +kernel, ?_⟩, by decide +kernel, fun h => ?_, rfl, ?_⟩
  · intro place x y hx hy
    cases hx.symm.trans hy
    rfl
  · have hclass := (hmixed.mp h).2 [0, 0] (.signed 5) (.unsigned 5) rfl rfl
    cases hclass
  · rw [← hscalar rfl]
    decide

/-- **Two lists are equal although their elements are not.** -/
theorem equal_lists_of_unequal_elements :
    (Value.list [.number (.signed 5)]).beq (.list [.number (.unsigned 5)]) = true ∧
      (Value.number (.signed 5)).beq (.number (.unsigned 5)) = false := by
  decide +kernel

end Value

end Sift
