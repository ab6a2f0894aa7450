import Sift.Proofs.Conformance
import Sift.Proofs.Operators
import Sift.Proofs.Steps

/-!
# Plans compare what can be compared

A comparison on two values of the wrong classes never holds, so a criterion that made one would
leave every record out without a word. This file says that no plan has one:

* `Comparison.Suits` -- two values are of the classes a comparison is about;
* `Condition.comparison?` -- the comparison in a condition, under its negations;
* `Comparison.suits_of_licenses` -- a comparison that is licensed by two types suits the values of
  these types;
* `Plan.suits_of_ofShapes` -- every comparison of a plan is between two declared types with one
  base, and suits what is read from records that hold what their shapes declare.
-/

namespace Sift

/-! ## 1. Classes of values -/

namespace Value

/-- Both values are texts, if both are there. -/
def BothTexts (m v : Value) : Prop :=
  m = .absent ∨ v = .absent ∨ ∃ s t, m = .text s ∧ v = .text t

/-- Both values are texts, both timestamps, or both numbers of one representation, if both are
    there. -/
def BothOrdered (m v : Value) : Prop :=
  BothTexts m v ∨ (∃ s t, m = .timestamp s ∧ v = .timestamp t) ∨
    ∃ a b, m = .number a ∧ v = .number b ∧ a.numberClass = b.numberClass

/-- The first value is a list of values that are alike to the second, if it is there. -/
def ListAlike (c v : Value) : Prop :=
  c = .absent ∨ ∃ items, c = .list items ∧ ∀ x ∈ items, Alike x v

/-- Both values are lists of values that are alike, if both are there. -/
def BothLists (m v : Value) : Prop :=
  m = .absent ∨ v = .absent ∨
    ∃ left right, m = .list left ∧ v = .list right ∧ ∀ x ∈ left, ∀ y ∈ right, Alike x y

end Value

/-- The values a comparison is about. -/
def Comparison.Suits (m v : Value) : Comparison → Prop
  | .equal => m.Alike v
  | .greater | .greaterOrEqual | .less | .lessOrEqual => m.BothOrdered v
  | .contains | .containsIgnoreCase | .startsWith | .endsWith => m.BothTexts v
  | .anyOf => v.ListAlike m
  | .includes => m.ListAlike v
  | .overlaps => m.BothLists v

/-! ## 2. Two types -/

namespace ModelSide

variable {catalog : Catalog} {side : ModelSide} {filterType : FieldType} {m v : Value}

theorem near_of_fit (hfit : side.fit = Fit.ofTypes? filterType side.type)
    (h : side.fit = some .identical ∨ side.fit = some .nullable) :
    FieldType.Near filterType side.type := by
  rcases h with hk | hk
  · exact Fit.says_of_ofTypes? (hfit.symm.trans hk)
  · exact Fit.says_of_ofTypes? (hfit.symm.trans hk)

theorem near_of_scalar (hfit : side.fit = Fit.ofTypes? filterType side.type)
    (h : side.scalar filterType = true) : FieldType.Near filterType side.type := by
  unfold scalar at h
  simp only [Bool.and_eq_true, Bool.or_eq_true, beq_iff_eq] at h
  exact near_of_fit hfit h.1

/-- A value of a text type decides that what is alike to it is a text. -/
theorem bothTexts_of_isText (htext : side.type.isText = true) (hm : m.Conforms catalog side.type)
    (h : m.Alike v) : m.BothTexts v := by
  rcases hm.unwrapped with ⟨_, habsent⟩ | hm
  · exact .inl habsent
  · unfold FieldType.isText at htext
    split at htext
    · rename_i htype
      rw [htype] at hm
      cases hm with
      | text s =>
        cases h with
        | right => exact .inr (.inl rfl)
        | text _ t => exact .inr (.inr ⟨s, t, rfl, rfl⟩)
    · cases htext

/-- A value of an ordered type decides the class of what is alike to it. -/
theorem bothOrdered_of_isOrderable (hord : side.type.isOrderable = true)
    (hm : m.Conforms catalog side.type) (h : m.Alike v) : m.BothOrdered v := by
  rcases hm.unwrapped with ⟨_, habsent⟩ | hm
  · exact .inl (.inl habsent)
  · unfold FieldType.isOrderable at hord
    split at hord
    · rename_i htype
      rw [htype] at hm
      cases hm with
      | text s =>
        cases h with
        | right => exact .inl (.inr (.inl rfl))
        | text _ t => exact .inl (.inr (.inr ⟨s, t, rfl, rfl⟩))
    · rename_i k htype
      rw [htype] at hm
      cases hm with
      | number _ =>
        cases h with
        | right => exact .inl (.inr (.inl rfl))
        | number hclass => exact .inr (.inr ⟨_, _, rfl, rfl, hclass⟩)
    · rename_i htype
      rw [htype] at hm
      cases hm with
      | timestamp s =>
        cases h with
        | right => exact .inl (.inr (.inl rfl))
        | timestamp _ t => exact .inr (.inl ⟨s, t, rfl, rfl⟩)
    · cases hord

/-- **A comparison suits the values of the two types that license it.** -/
theorem suits_of_licenses {c : Comparison} (hfit : side.fit = Fit.ofTypes? filterType side.type)
    (hl : side.Licenses filterType c) (hm : m.Conforms catalog side.type)
    (hv : v.Conforms catalog filterType) : c.Suits m v := by
  have scalars : side.scalar filterType = true → m.Alike v := fun hs =>
    Value.alike_of_near (near_of_scalar hfit hs) hv hm
  cases c with
  | equal => exact scalars hl.1
  | greater | greaterOrEqual | less | lessOrEqual =>
    exact bothOrdered_of_isOrderable hl.2 hm (scalars hl.1)
  | contains | containsIgnoreCase | startsWith | endsWith =>
    exact bothTexts_of_isText hl.2 hm (scalars hl.1)
  | anyOf =>
    obtain ⟨n, hk⟩ := hl
    obtain ⟨e, he, hnear⟩ := Fit.says_of_ofTypes? (hfit.symm.trans hk)
    rcases hv.elements he with habsent | ⟨items, rfl, hitems⟩
    · exact .inl habsent
    · refine .inr ⟨items, rfl, fun x hx => ?_⟩
      exact (Value.alike_of_near hnear (hitems x hx) hm).symm
  | includes =>
    obtain ⟨n, hk⟩ := hl
    obtain ⟨e, he, hnear⟩ := Fit.says_of_ofTypes? (hfit.symm.trans hk)
    rcases hm.elements he with habsent | ⟨items, rfl, hitems⟩
    · exact .inl habsent
    · exact .inr ⟨items, rfl, fun x hx => Value.alike_of_near hnear hv (hitems x hx)⟩
  | overlaps =>
    obtain ⟨hk, hboth⟩ := hl
    have hnear : FieldType.Near filterType side.type := near_of_fit hfit hk
    unfold bothLists at hboth
    rw [Bool.and_eq_true, Option.isSome_iff_exists, Option.isSome_iff_exists] at hboth
    obtain ⟨⟨ef, hef⟩, em, hem⟩ := hboth
    rcases hm.elements hem with habsent | ⟨left, rfl, _⟩
    · exact .inl habsent
    · rcases hv.elements hef with habsent | ⟨right, rfl, _⟩
      · exact .inr (.inl habsent)
      · refine .inr (.inr ⟨left, right, rfl, rfl, ?_⟩)
        cases Value.alike_of_near hnear hv hm with
        | list hitems => exact hitems

/-- An absent model value suits every comparison that is licensed: a list on the filter side is
    compared with nothing. -/
theorem suits_of_absent {c : Comparison} (hfit : side.fit = Fit.ofTypes? filterType side.type)
    (hl : side.Licenses filterType c) (hm : m = .absent) (hv : v.Conforms catalog filterType) :
    c.Suits m v := by
  subst hm
  cases c with
  | anyOf =>
    obtain ⟨n, hk⟩ := hl
    obtain ⟨e, he, _⟩ := Fit.says_of_ofTypes? (hfit.symm.trans hk)
    rcases hv.elements he with habsent | ⟨items, rfl, _⟩
    · exact .inl habsent
    · exact .inr ⟨items, rfl, fun x _ => .right x⟩
  | equal => exact .left v
  | greater | greaterOrEqual | less | lessOrEqual => exact .inl (.inl rfl)
  | _ => exact .inl rfl

/-- A licence comes with a fit, and so with one base. -/
theorem base_of_licenses {c : Comparison} (hfit : side.fit = Fit.ofTypes? filterType side.type)
    (hl : side.Licenses filterType c) : filterType.base = side.type.base := by
  have scalars : side.scalar filterType = true → filterType.base = side.type.base := fun hs =>
    (near_of_scalar hfit hs).base_eq
  have fitted : ∀ {k : Fit}, side.fit = some k → filterType.base = side.type.base := fun hk =>
    Fit.base_of_ofTypes? (hfit.symm.trans hk)
  cases c with
  | anyOf =>
    obtain ⟨n, hk⟩ := hl
    exact fitted hk
  | includes =>
    obtain ⟨n, hk⟩ := hl
    exact fitted hk
  | overlaps => exact (near_of_fit hfit hl.1).base_eq
  | _ => exact scalars hl.1

end ModelSide

/-! ## 3. Plans -/

namespace Condition

/-- The comparison in a condition, with its path and its filter field, under any negations. -/
def comparison? : Condition → Option (Comparison × Path × String)
  | .compare comparison model filter => some (comparison, model, filter)
  | .not inner => inner.comparison?
  | _ => none

@[simp] theorem comparison?_negated (c : Condition) : c.negated.comparison? = c.comparison? := by
  cases c <;> rfl

@[simp] theorem comparison?_negatedIf (c : Condition) (negate : Bool) :
    (c.negatedIf negate).comparison? = c.comparison? := by
  cases negate <;> simp

end Condition

section Plans

variable {catalog : Catalog} {model filter : Shape} {overridden : List String} {options : Options}

/-- The comparison of a field's step is made for the field, at the path it searches, and the types
    on its two sides license it. -/
theorem licenses_of_fieldStep {d : Field} {step : Step} (hn : filter.DistinctNames)
    (hd : d ∈ filter.fields)
    (h : fieldStep catalog model filter overridden options d = .ok step) {c : Comparison}
    {path : Path} {field : String} (hc : step.condition.comparison? = some (c, path, field)) :
    field = d.name ∧ ∃ side : ModelSide, side.Reads catalog model d ∧ path = side.path ∧
      side.Licenses d.type c := by
  obtain ⟨_, _, ⟨_, hstep⟩ | ⟨_, side, condition, hr, hcondition, hstep⟩⟩ := fieldStep_ok hn hd h
  · rw [hstep, Condition.comparison?_negatedIf] at hc
    cases hc
  · rw [hstep, Condition.comparison?_negatedIf] at hc
    rcases ModelSide.condition?_cases hcondition with ⟨_, _, rfl⟩ | ⟨cmp, _, hl, rfl⟩
    · rw [Condition.comparison?_negatedIf] at hc
      cases hc
    · rw [Condition.comparison?_negatedIf] at hc
      cases hc
      exact ⟨rfl, side, hr, rfl, hl⟩

/-- **Every comparison of a plan is made between two types with one base, and suits the values it
    reads** from a record and a filter instance that hold what their shapes declare. -/
theorem Plan.suits_of_ofShapes {plan : Plan} (hn : filter.DistinctNames)
    (hp : Plan.ofShapes catalog model filter overridden options = .ok plan) {step : Step}
    (hs : step ∈ plan.steps) {c : Comparison} {path : Path} {field : String}
    (hc : step.condition.comparison? = some (c, path, field)) :
    ∃ d ∈ filter.fields, d.name = field ∧ ∃ type crossed,
      Path.follow? catalog model path.segments = some (type, crossed) ∧
      d.type.base = type.base ∧
      ∀ r f : Record, r.Conforms catalog model → f.Conforms catalog filter →
        c.Suits (path.access r) (f.get field) := by
  obtain ⟨_, _, hsteps⟩ := Plan.ofShapes_eq_ok_iff.mp hp
  obtain ⟨d, hsearched, hstep⟩ := exists_left_of_forall₂ hsteps hs
  have hd : d ∈ filter.fields := (Shape.mem_searched.mp hsearched).1
  obtain ⟨rfl, side, hr, rfl, hl⟩ := licenses_of_fieldStep hn hd hstep hc
  obtain ⟨crossed, hfollow, _⟩ := hr.declared
  refine ⟨d, hd, rfl, side.type, crossed, hfollow, ModelSide.base_of_licenses hr.fit hl, ?_⟩
  intro r f hrecord hfilter
  have hv : (f.get d.name).Conforms catalog d.type := hfilter d hd
  rcases hrecord.access hfollow with hm | ⟨_, habsent⟩
  · exact ModelSide.suits_of_licenses hr.fit hl hm hv
  · exact ModelSide.suits_of_absent hr.fit hl habsent hv

end Plans

namespace Ticket

/-- A ticket of somebody who lives in Rome. -/
def lost : Record :=
  ⟨0, true, [("title", .text "lost keys"), ("tags", .list [.text "new"]),
    ("votes", .number (.unsigned 3)),
    ("owner", .record ⟨1, true, [("city", .text "Rome")]⟩)]⟩

/-- A search for tickets from cities that start with `Ro`. -/
def search : Record :=
  ⟨2, true, [("title", .text ""), ("tag", .text ""), ("least", .number (.unsigned 0)),
    ("city", .text "Ro"), ("page", .number (.unsigned 1))]⟩

theorem lost_conforms : lost.Conforms catalog model := by
  have howner : Record.Conforms catalog (catalog ⟨"Person"⟩)
      ⟨1, true, [("city", .text "Rome")]⟩ := by
    intro d hd
    have hcity : d = ⟨"city", .text, .default⟩ := List.mem_singleton.mp hd
    rw [hcity]
    exact .text "Rome"
  have htags : ∀ v ∈ [Value.text "new"], v.Conforms catalog .text := by
    intro v hv
    rw [List.mem_singleton.mp hv]
    exact .text "new"
  intro d hd
  simp only [model, List.mem_cons, List.not_mem_nil, or_false] at hd
  rcases hd with rfl | rfl | rfl | rfl
  · exact .text "lost keys"
  · exact .list htags
  · exact .number rfl
  · exact .set (.record howner)

theorem search_conforms : search.Conforms catalog filter := by
  intro d hd
  simp only [filter, List.mem_cons, List.not_mem_nil, or_false] at hd
  rcases hd with rfl | rfl | rfl | rfl | rfl
  · exact .text ""
  · exact .text ""
  · exact .number rfl
  · exact .set (.text "Ro")
  · exact .number rfl

/-- The search by city compares the city of the owner with the one that is looked for. -/
theorem suits_of_ofShapes_city : filter.DistinctNames ∧
    ∃ plan, Plan.ofShapes catalog model filter [] .default = .ok plan ∧
      ∃ step ∈ plan.steps, step.condition.comparison? =
          some (.startsWith, ⟨["owner", "city"]⟩, "city") ∧
        lost.Conforms catalog model ∧ search.Conforms catalog filter ∧
        Comparison.startsWith.Suits (Path.access ⟨["owner", "city"]⟩ lost) (search.get "city") := by
  have hn : filter.DistinctNames := by decide
  have hp : ∃ plan, Plan.ofShapes catalog model filter [] .default = .ok plan ∧
      ∃ step ∈ plan.steps, step.condition.comparison? =
        some (.startsWith, ⟨["owner", "city"]⟩, "city") :=
    ⟨_, rfl, _, .tail _ (.tail _ (.tail _ (.head _))), rfl⟩
  obtain ⟨plan, hplan, step, hs, hc⟩ := hp
  obtain ⟨_, _, _, _, _, _, _, hsuits⟩ := Plan.suits_of_ofShapes hn hplan hs hc
  exact ⟨hn, plan, hplan, step, hs, hc, lost_conforms, search_conforms,
    hsuits lost search lost_conforms search_conforms⟩

end Ticket

end Sift
