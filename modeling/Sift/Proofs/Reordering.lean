import Sift.Proofs.Walks

/-!
# The order inside collections

A set is handed over as a list, in whatever order it iterates. This file says when that order is
felt, and that it is not felt otherwise:

* `Value.Reordered` -- lists inside a value, at any depth, have their elements in another order;
* `Value.Reordered.inversion` -- everything that a reordering can do to a value;
* `Comparison.Asks` -- the pairs of values a comparison asks to be the same. Only two lists feel the
  order, because they are compared place by place;
* `FieldType.Unordered` -- two types whose values are never compared list by list;
* `Specification.holds_of_reordered` -- a compiled specification over such types does not feel the
  order. Cards in the lanes of a `Board` are compared in their order.
-/

namespace Sift

/-! ## 1. Reorderings -/

/-- The elements of lists are put into another order, in any of the lists of a value, however deep.
    A record stays the record it is. -/
inductive Value.Reordered : Value → Value → Prop
  | refl (v : Value) : Reordered v v
  | trans {u v w : Value} (first : Reordered u v) (second : Reordered v w) : Reordered u w
  | order {items items' : List Value} (h : items.Perm items') :
      Reordered (.list items) (.list items')
  | element {v v' : Value} (before after : List Value) (h : Reordered v v') :
      Reordered (.list (before ++ v :: after)) (.list (before ++ v' :: after))
  | field {v v' : Value} (identity : Nat) (reportsDefaults : Bool) (name : String)
      (before after : List (String × Value)) (h : Reordered v v') :
      Reordered (.record ⟨identity, reportsDefaults, before ++ (name, v) :: after⟩)
        (.record ⟨identity, reportsDefaults, before ++ (name, v') :: after⟩)

/-- Lists inside the fields of a record have their elements in another order. -/
def Record.Reordered (r r' : Record) : Prop :=
  Value.Reordered (.record r) (.record r')

/-- Where one of the named values is reordered, what is found under any name is. -/
theorem Record.valueIn_reordered {v v' : Value} (h : v.Reordered v') (name : String)
    (before after : List (String × Value)) (n : String) :
    (valueIn (before ++ (name, v) :: after) n).Reordered
      (valueIn (before ++ (name, v') :: after) n) := by
  induction before with
  | nil =>
    simp only [List.nil_append, valueIn_cons]
    split
    · exact h
    · exact .refl _
  | cons entry rest ih =>
    obtain ⟨other, held⟩ := entry
    simp only [List.cons_append, valueIn_cons]
    split
    · exact .refl _
    · exact ih

namespace Value.Reordered

variable {v v' : Value}

theorem symm (h : v.Reordered v') : v'.Reordered v := by
  induction h with
  | refl v => exact .refl v
  | trans _ _ ih₁ ih₂ => exact .trans ih₂ ih₁
  | order h => exact .order h.symm
  | element before after _ ih => exact .element before after ih
  | field identity reportsDefaults name before after _ ih =>
    exact .field identity reportsDefaults name before after ih

/-- **Everything that a reordering can do to a value**: a list is a list with elements reordered
    from its own, a record the same record with its fields reordered, and any other value is left
    as it is. -/
theorem inversion (h : v.Reordered v') :
    v = v' ∨
      (∃ items items', v = .list items ∧ v' = .list items' ∧
        ∀ x ∈ items, ∃ x' ∈ items', x.Reordered x') ∨
      ∃ r r' : Record, v = .record r ∧ v' = .record r' ∧ r.identity = r'.identity ∧
        ∀ name, (r.get name).Reordered (r'.get name) := by
  induction h with
  | refl v => exact .inl rfl
  | trans _ _ ih₁ ih₂ =>
    rcases ih₁ with rfl | ⟨a, b, rfl, rfl, hab⟩ | ⟨a, b, rfl, rfl, hid, hab⟩
    · exact ih₂
    · rcases ih₂ with rfl | ⟨_, c, heq, rfl, hbc⟩ | ⟨_, _, heq, _⟩
      · exact .inr (.inl ⟨a, b, rfl, rfl, hab⟩)
      · cases heq
        refine .inr (.inl ⟨a, c, rfl, rfl, fun x hx => ?_⟩)
        obtain ⟨y, hy, hxy⟩ := hab x hx
        obtain ⟨z, hz, hyz⟩ := hbc y hy
        exact ⟨z, hz, .trans hxy hyz⟩
      · cases heq
    · rcases ih₂ with rfl | ⟨_, _, heq, _⟩ | ⟨_, c, heq, rfl, hid', hbc⟩
      · exact .inr (.inr ⟨a, b, rfl, rfl, hid, hab⟩)
      · cases heq
      · cases heq
        exact .inr (.inr ⟨a, c, rfl, rfl, hid.trans hid', fun name =>
          .trans (hab name) (hbc name)⟩)
  | order h =>
    exact .inr (.inl ⟨_, _, rfl, rfl, fun x hx => ⟨x, h.mem_iff.mp hx, .refl x⟩⟩)
  | @element v v' before after h _ =>
    refine .inr (.inl ⟨_, _, rfl, rfl, fun x hx => ?_⟩)
    rcases List.mem_append.mp hx with hx | hx
    · exact ⟨x, List.mem_append_left _ hx, .refl x⟩
    · rcases List.mem_cons.mp hx with rfl | hx
      · exact ⟨v', List.mem_append_right _ List.mem_cons_self, h⟩
      · exact ⟨x, List.mem_append_right _ (List.mem_cons_of_mem _ hx), .refl x⟩
  | field identity reportsDefaults name before after h _ =>
    exact .inr (.inr ⟨_, _, rfl, rfl, rfl, fun n =>
      Record.valueIn_reordered h name before after n⟩)

/-- A list stays a list, and every element of it is still there, up to reordering. -/
theorem elements {items : List Value} (h : (Value.list items).Reordered v') :
    ∃ items', v' = .list items' ∧ ∀ x ∈ items, ∃ x' ∈ items', x.Reordered x' := by
  rcases h.inversion with rfl | ⟨_, items', heq, rfl, hitems⟩ | ⟨_, _, heq, _⟩
  · exact ⟨items, rfl, fun x hx => ⟨x, hx, .refl x⟩⟩
  · cases heq
    exact ⟨items', rfl, hitems⟩
  · cases heq

/-- A record stays the record it is, and what it holds under a name is reordered. -/
theorem fields {r : Record} (h : (Value.record r).Reordered v') :
    ∃ r' : Record, v' = .record r' ∧ r.identity = r'.identity ∧
      ∀ name, (r.get name).Reordered (r'.get name) := by
  rcases h.inversion with rfl | ⟨_, _, heq, _⟩ | ⟨_, r', heq, rfl, hid, hfields⟩
  · exact ⟨r, rfl, rfl, fun name => .refl _⟩
  · cases heq
  · cases heq
    exact ⟨r', rfl, hid, hfields⟩

/-- **Two lists that differ by a reordering have the same answer to a question about any element**,
    if the question has the same answer on elements that differ by a reordering. -/
theorem any_eq {items items' : List Value} (h : (Value.list items).Reordered (.list items'))
    {p p' : Value → Bool} (hp : ∀ x ∈ items, ∀ x', x.Reordered x' → p x = p' x') :
    items.any p = items'.any p' := by
  rw [Bool.eq_iff_iff, List.any_eq_true, List.any_eq_true]
  constructor
  · rintro ⟨x, hx, hpx⟩
    obtain ⟨_, heq, hitems⟩ := h.elements
    cases heq
    obtain ⟨x', hx', hxx'⟩ := hitems x hx
    exact ⟨x', hx', (hp x hx x' hxx').symm.trans hpx⟩
  · rintro ⟨x', hx', hpx'⟩
    obtain ⟨_, heq, hitems⟩ := h.symm.elements
    cases heq
    obtain ⟨x, hx, hxx'⟩ := hitems x' hx'
    exact ⟨x, hx, (hp x hx x' hxx'.symm).trans hpx'⟩

/-- The same for two values that may be lists. -/
theorem list?_any_eq (h : v.Reordered v') {p p' : Value → Bool}
    (hp : ∀ items, v.list? = some items → ∀ x ∈ items, ∀ x', x.Reordered x' → p x = p' x') :
    v.list?.any (·.any p) = v'.list?.any (·.any p') := by
  rcases h.inversion with rfl | ⟨items, items', rfl, rfl, _⟩ | ⟨_, _, rfl, rfl, _, _⟩
  · cases v with
    | list items => exact h.any_eq (hp items rfl)
    | _ => rfl
  · exact h.any_eq (hp items rfl)
  · rfl

/-- Whether a value is the default of its class does not depend on the order inside it. -/
theorem isDefault_eq (h : v.Reordered v') : v.isDefault = v'.isDefault := by
  induction h with
  | refl v => rfl
  | trans _ _ ih₁ ih₂ => exact ih₁.trans ih₂
  | order h => exact h.isEmpty_eq
  | element before after _ _ => cases before <;> rfl
  | field identity reportsDefaults name before after _ ih =>
    simp only [isDefault, Record.allDefault, Record.allDefaultIn_eq_all, List.all_append,
      List.all_cons, ih]

/-- What is absent stays so, and nothing else becomes it. -/
theorem isAbsent_eq (h : v.Reordered v') : v.isAbsent = v'.isAbsent := by
  rcases h.inversion with rfl | ⟨_, _, rfl, rfl, _⟩ | ⟨_, _, rfl, rfl, _⟩ <;> rfl

end Value.Reordered

/-- **A path leads to the same value, up to reordering.** -/
theorem Path.access_reordered {r r' : Record} (h : r.Reordered r') (path : Path) :
    (path.access r).Reordered (path.access r') := by
  have follow : ∀ (segments : List String) (v v' : Value), v.Reordered v' →
      (accessFrom v segments).Reordered (accessFrom v' segments) := by
    intro segments
    induction segments with
    | nil => simp
    | cons name rest ih =>
      intro v v' hv
      rcases hv.inversion with rfl | ⟨_, _, rfl, rfl, _⟩ | ⟨a, b, rfl, rfl, _, hab⟩
      · exact .refl _
      · exact .refl _
      · exact ih _ _ (hab name)
  obtain ⟨_, heq, _, hfields⟩ := Value.Reordered.fields h
  cases heq
  obtain ⟨segments⟩ := path
  cases segments with
  | nil => exact .refl _
  | cons name rest => exact follow rest _ _ (hfields name)

/-! ## 2. What feels the order -/

/-- **No guard feels the order.** -/
theorem Guard.admits_reordered {v v' : Value} (h : v.Reordered v') (g : Guard) :
    g.admits v = g.admits v' := by
  have hdefault := h.isDefault_eq
  rcases h.inversion with rfl | ⟨_, _, rfl, rfl, _⟩ | ⟨_, _, rfl, rfl, _, _⟩
  · rfl
  · cases g with
    | collection | structural => exact congrArg not hdefault
    | _ => rfl
  · cases g with
    | structural => exact congrArg not hdefault
    | _ => rfl

/-- The comparison asks whether the values are the same: two values it is made on, or elements of
    them. -/
def Comparison.Asks (m v : Value) : Comparison → Value → Value → Prop
  | .equal, x, y => x = m ∧ y = v
  | .anyOf, x, y => (∃ items, v.list? = some items ∧ x ∈ items) ∧ y = m
  | .includes, x, y => (∃ items, m.list? = some items ∧ x ∈ items) ∧ y = v
  | .overlaps, x, y =>
    (∃ left, m.list? = some left ∧ x ∈ left) ∧ ∃ right, v.list? = some right ∧ y ∈ right
  | _, _, _ => False

section Comparisons

variable {m m' v v' : Value}

/-- **Whether two values are the same feels no order, unless both are lists.** -/
theorem Value.sameAs_reordered (hm : m.Reordered m') (hv : v.Reordered v')
    (h : m.list? = none ∨ v.list? = none) : m.sameAs v = m'.sameAs v' := by
  rcases hm.inversion with rfl | ⟨_, _, rfl, rfl, _⟩ | ⟨a, b, rfl, rfl, hab, _⟩ <;>
    rcases hv.inversion with rfl | ⟨_, _, rfl, rfl, _⟩ | ⟨c, d, rfl, rfl, hcd, _⟩
  case inl.inl => rfl
  case inl.inr.inl => cases m <;> simp_all [sameAs, list?]
  case inl.inr.inr => cases m <;> simp_all [sameAs]
  case inr.inl.inl => cases v <;> simp_all [sameAs, list?]
  case inr.inl.inr.inl => simp [list?] at h
  case inr.inl.inr.inr => rfl
  case inr.inr.inl => cases v <;> simp_all [sameAs]
  case inr.inr.inr.inl => rfl
  case inr.inr.inr.inr => simp only [sameAs, hab, hcd]

/-- The order of two values does not depend on the order inside them: there is none between lists
    or records. -/
theorem Value.compare?_reordered (hm : m.Reordered m') (hv : v.Reordered v') :
    m.compare? v = m'.compare? v' := by
  rcases hm.inversion with rfl | ⟨_, _, rfl, rfl, _⟩ | ⟨_, _, rfl, rfl, _⟩
  · rcases hv.inversion with rfl | ⟨_, _, rfl, rfl, _⟩ | ⟨_, _, rfl, rfl, _⟩
    · rfl
    · cases m <;> rfl
    · cases m <;> rfl
  · rfl
  · rfl

/-- A test of two texts has the same answer: texts are left as they are. -/
theorem Comparison.onText_reordered (test : String → String → Bool) (hm : m.Reordered m')
    (hv : v.Reordered v') : onText test m v = onText test m' v' := by
  rcases hm.inversion with rfl | ⟨_, _, rfl, rfl, _⟩ | ⟨_, _, rfl, rfl, _⟩
  · rcases hv.inversion with rfl | ⟨_, _, rfl, rfl, _⟩ | ⟨_, _, rfl, rfl, _⟩
    · rfl
    · cases m <;> rfl
    · cases m <;> rfl
  · rfl
  · rfl

theorem Comparison.eval_overlaps (m v : Value) :
    overlaps.eval m v = m.list?.any fun left => left.any fun x =>
      v.list?.any fun right => right.any fun y => x.sameAs y := by
  cases m <;> cases v <;> simp [eval, Value.list?]

/-- **A comparison that never asks whether two lists are the same feels no order.** -/
theorem Comparison.eval_reordered {c : Comparison} (hm : m.Reordered m') (hv : v.Reordered v')
    (hasks : ∀ x y, c.Asks m v x y → x.list? = none ∨ y.list? = none) :
    c.eval m v = c.eval m' v' := by
  cases c with
  | equal => exact Value.sameAs_reordered hm hv (hasks m v ⟨rfl, rfl⟩)
  | greater | greaterOrEqual | less | lessOrEqual =>
    simp only [eval, Value.compare?_reordered hm hv]
  | contains | containsIgnoreCase | startsWith | endsWith =>
    exact onText_reordered _ hm hv
  | anyOf =>
    exact hv.list?_any_eq fun items hitems x hx x' hxx' =>
      Value.sameAs_reordered hxx' hm (hasks x m ⟨⟨items, hitems, hx⟩, rfl⟩)
  | includes =>
    exact hm.list?_any_eq fun items hitems x hx x' hxx' =>
      Value.sameAs_reordered hxx' hv (hasks x v ⟨⟨items, hitems, hx⟩, rfl⟩)
  | overlaps =>
    rw [eval_overlaps, eval_overlaps]
    exact hm.list?_any_eq fun left hleft x hx x' hxx' =>
      hv.list?_any_eq fun right hright y hy y' hyy' =>
        Value.sameAs_reordered hxx' hyy' (hasks x y ⟨⟨left, hleft, hx⟩, right, hright, hy⟩)

end Comparisons

/-! ## 3. Types whose values are not compared list by list -/

/-- Values of the two types are never compared place by place: on one side there is no list, or both
    are lists of elements that have none. -/
def FieldType.Unordered (a b : FieldType) : Prop :=
  a.layers = 0 ∨ b.layers = 0 ∨
    ∃ e e', a.element? = some e ∧ b.element? = some e' ∧ e.layers = 0 ∧ e'.layers = 0

section Types

variable {catalog : Catalog} {m v : Value}

/-- Where a type has no list, its values are none. -/
theorem Value.Conforms.list?_eq_none {t : FieldType} (h : v.Conforms catalog t)
    (ht : t.layers = 0) : v.list? = none := by
  induction h with
  | set _ ih => exact ih ht
  | list _ _ => cases ht
  | _ => rfl

/-- The elements of a list are of the element type. -/
theorem Value.Conforms.of_mem {t e : FieldType} (h : v.Conforms catalog t)
    (he : t.element? = some e) {items : List Value} (hv : v.list? = some items) {x : Value}
    (hx : x ∈ items) : x.Conforms catalog e := by
  rcases h.elements he with rfl | ⟨_, rfl, hitems⟩
  · cases hv
  · cases hv
    exact hitems x hx

/-- A value that is no list leaves a comparison no two lists to compare. -/
theorem Comparison.Asks.flat_of_left {c : Comparison} {x y : Value} (h : c.Asks m v x y)
    (hm : m.list? = none) : x.list? = none ∨ y.list? = none := by
  cases c with
  | equal =>
    obtain ⟨rfl, _⟩ := h
    exact .inl hm
  | anyOf =>
    obtain ⟨_, rfl⟩ := h
    exact .inr hm
  | includes | overlaps =>
    obtain ⟨⟨items, hitems, _⟩, _⟩ := h
    rw [hm] at hitems
    cases hitems
  | _ => cases h

theorem Comparison.Asks.flat_of_right {c : Comparison} {x y : Value} (h : c.Asks m v x y)
    (hv : v.list? = none) : x.list? = none ∨ y.list? = none := by
  cases c with
  | equal | includes =>
    obtain ⟨_, rfl⟩ := h
    exact .inr hv
  | anyOf =>
    obtain ⟨⟨items, hitems, _⟩, _⟩ := h
    rw [hv] at hitems
    cases hitems
  | overlaps =>
    obtain ⟨_, items, hitems, _⟩ := h
    rw [hv] at hitems
    cases hitems
  | _ => cases h

/-- **Between types whose values are not compared place by place, no licensed comparison asks
    whether two lists are the same.** -/
theorem FieldType.Unordered.flat_of_asks {side : ModelSide} {filterType : FieldType}
    {c : Comparison} (h : filterType.Unordered side.type) (hl : side.Licenses filterType c)
    (hm : m.Conforms catalog side.type) (hv : v.Conforms catalog filterType) {x y : Value}
    (hasks : c.Asks m v x y) : x.list? = none ∨ y.list? = none := by
  rcases h with hfilter | hmodel | ⟨e, e', he, he', hflat, hflat'⟩
  · exact hasks.flat_of_right (hv.list?_eq_none hfilter)
  · exact hasks.flat_of_left (hm.list?_eq_none hmodel)
  · cases c with
    | equal =>
      -- two lists are no scalars
      have hscalar := hl.1
      simp [ModelSide.scalar, ModelSide.bothLists, he, he'] at hscalar
    | anyOf =>
      obtain ⟨⟨items, hitems, hx⟩, _⟩ := hasks
      exact .inl ((hv.of_mem he hitems hx).list?_eq_none hflat)
    | includes | overlaps =>
      obtain ⟨⟨items, hitems, hx⟩, _⟩ := hasks
      exact .inl ((hm.of_mem he' hitems hx).list?_eq_none hflat')
    | _ => cases hasks

end Types

/-! ## 4. Specifications -/

/-- Every comparison the filter makes is between types whose values are not compared place by place.
    Fields with a predicate of their own and null checks make none. -/
def Shape.ComparesUnordered (catalog : Catalog) (filter model : Shape)
    (overridden : List String) : Prop :=
  ∀ d ∈ filter.searched, d.name ∉ overridden → d.settings.operator.isNullCheck = false →
    ∀ path type crossed, d.modelPath? = some path →
      Path.follow? catalog model path.segments = some (type, crossed) → d.type.Unordered type

section Specifications

variable {catalog : Catalog} {model filter : Shape} {options : Options} {o : Overrides}
  {s : Specification} {r r' f f' : Record}

/-- Null checks make no comparison. -/
theorem ModelSide.isNullCheck_of_made? {side : ModelSide} {like : LikeMode} {filterType : FieldType}
    {op : Operator} {c : Comparison} (h : side.made? like filterType (side.effective filterType op) =
      some c) : op.isNullCheck = false := by
  cases op with
  | isNull | isNotNull => cases h
  | _ => rfl

/-- **What a field makes of the model does not feel the order.** -/
theorem ModelSide.eval_reordered {d : Field} {side : ModelSide} {like : LikeMode}
    {condition : Condition} (hd : d ∈ filter.searched) (hdeclared : side.Declared catalog model d)
    (hcondition : side.condition? like d.name d.type (side.effective d.type d.settings.operator) =
      some condition)
    (hunordered : d.settings.operator.isNullCheck = false → d.type.Unordered side.type)
    (hr : r.Conforms catalog model) (hf : f.Conforms catalog filter)
    (hrr : r.Reordered r') (hff : f.Reordered f') :
    condition.eval o r f = condition.eval o r' f' := by
  have haccess := Path.access_reordered hrr side.path
  have hvalue := Path.access_reordered hff (.single d.name)
  obtain ⟨_, crossed, hfollow, _⟩ := hdeclared
  rcases ModelSide.condition?_cases hcondition with ⟨_, _, rfl⟩ | ⟨c, hmade, hl, rfl⟩
  · rw [Condition.eval_negatedIf, Condition.eval_negatedIf]
    exact congrArg _ haccess.isAbsent_eq
  · rw [Condition.eval_negatedIf, Condition.eval_negatedIf]
    refine congrArg _ (Comparison.eval_reordered haccess hvalue fun x y hasks => ?_)
    rcases hr.access hfollow with hm | ⟨_, habsent⟩
    · exact (hunordered (isNullCheck_of_made? hmade)).flat_of_asks hl hm
        (hf d (Shape.mem_searched.mp hd).1) hasks
    · have hm : (side.path.access r).list? = none := congrArg Value.list? habsent
      exact hasks.flat_of_left hm

/-- **The step of a field does not feel the order**, neither in its guard nor in its condition. -/
theorem fieldStep_reordered {d : Field} {step : Step}
    (h : fieldStep catalog model filter o.fields options d = .ok step) (hd : d ∈ filter.searched)
    (hunordered : filter.ComparesUnordered catalog model o.fields)
    (hr : r.Conforms catalog model) (hf : f.Conforms catalog filter)
    (hrr : r.Reordered r') (hff : f.Reordered f')
    (hp : ∀ p, o.get? d.name = some p → p r f = p r' f') :
    step.admits f = step.admits f' ∧
      step.condition.eval o r f = step.condition.eval o r' f' := by
  obtain ⟨target, htarget, condition, hcondition, rfl⟩ := fieldStep_eq_ok_iff.mp h
  have hvalue : (f.get d.name).Reordered (f'.get d.name) :=
    Path.access_reordered hff (.single d.name)
  refine ⟨?guard, ?condition⟩
  case guard =>
    rw [Step.admits_eq rfl, Step.admits_eq rfl]
    exact congrArg _ (Guard.admits_reordered hvalue _)
  case condition =>
    cases target with
    | override =>
      cases hcondition
      rw [Condition.eval_negatedIf, Condition.eval_negatedIf]
      refine congrArg _ ?_
      show (o.get? d.name).any (· r f) = (o.get? d.name).any (· r' f')
      cases hget : o.get? d.name with
      | none => rfl
      | some p => exact hp p hget
    | model side =>
      have hdeclared := Target.ofField_declared htarget
      obtain ⟨crossed, hfollow, _⟩ := hdeclared.declared
      have hover := Target.not_mem_of_ofField htarget
      obtain ⟨found, hfound, rfl⟩ := Criterion.condition_model_eq_ok_iff.mp hcondition
      rw [Condition.eval_negatedIf, Condition.eval_negatedIf]
      exact congrArg _ (ModelSide.eval_reordered hd hdeclared hfound
        (fun hop => hunordered d hd hover hop _ _ _ hdeclared.path hfollow) hr hf hrr hff)

/-- **A compiled specification does not feel the order inside collections**, if none of its
    comparisons is between types whose values are compared place by place, and its predicates do
    not feel it either. -/
theorem Specification.holds_of_reordered
    (hs : compile catalog model filter o options = .ok s)
    (hunordered : filter.ComparesUnordered catalog model o.fields)
    (hp : ∀ d ∈ filter.searched, ∀ p, o.get? d.name = some p → p r f = p r' f')
    (hr : r.Conforms catalog model) (hf : f.Conforms catalog filter)
    (hrr : r.Reordered r') (hff : f.Reordered f') :
    s.holds r f = s.holds r' f' := by
  obtain ⟨plan, hplan, _, hholds⟩ := compile_ok hs
  obtain ⟨_, _, hsteps⟩ := Plan.ofShapes_eq_ok_iff.mp hplan
  rw [Bool.eq_iff_iff, hholds, hholds]
  refine forall₂_congr fun step hstep => ?_
  obtain ⟨d, hd, hfield⟩ := exists_left_of_forall₂ hsteps hstep
  obtain ⟨hadmits, heval⟩ := fieldStep_reordered hfield hd hunordered hr hf hrr hff (hp d hd)
  rw [hadmits, heval]

end Specifications

namespace Board

/-- A board of cards: its labels, and its lanes with the names of the cards in them. -/
def model : Shape :=
  ⟨"Board", [⟨"labels", .list .text, .default⟩, ⟨"lanes", .list (.list .text), .default⟩]⟩

def catalog : Catalog := Catalog.ofList [(⟨"Board"⟩, model)]

/-- Searches for boards with one of several labels. -/
def labelFilter : Shape :=
  ⟨"LabelFilter", [⟨"labels", .list .text, .default⟩]⟩

/-- Searches for boards with one of several lanes. -/
def laneFilter : Shape :=
  ⟨"LaneFilter", [⟨"lanes", .list (.list .text), .default⟩]⟩

/-- A board with labels and one lane of cards. It also serves as a search for them. -/
def board (labels cards : List String) : Record :=
  ⟨0, true, [("labels", .list (labels.map .text)), ("lanes", .list [.list (cards.map .text)])]⟩

theorem board_conforms (labels cards : List String) :
    (board labels cards).Conforms catalog model := by
  have texts : ∀ names : List String, ∀ v ∈ names.map Value.text, v.Conforms catalog .text := by
    intro names v hv
    obtain ⟨name, _, rfl⟩ := List.mem_map.mp hv
    exact .text name
  refine List.forall_mem_cons.mpr ⟨.list (texts labels), List.forall_mem_singleton.mpr ?_⟩
  exact .list (List.forall_mem_singleton.mpr (.list (texts cards)))

theorem board_reordered {labels labels' cards cards' : List String} (hl : labels.Perm labels')
    (hc : cards.Perm cards') : (board labels cards).Reordered (board labels' cards') :=
  .trans (.field 0 true "labels" [] _ (.order (hl.map _)))
    (.field 0 true "lanes" [("labels", .list (labels'.map .text))] []
      (.element [] [] (.order (hc.map _))))

/-- A search for labels does not feel in which order the board has them. -/
theorem holds_of_reordered_labels :
    labelFilter.ComparesUnordered catalog model Overrides.empty.fields ∧
    (∀ d ∈ labelFilter.searched, ∀ p, Overrides.empty.get? d.name = some p →
      p (board ["new", "open"] []) (board ["open"] []) =
        p (board ["open", "new"] []) (board ["open"] [])) ∧
    ∃ s, Specification.compile catalog model labelFilter .empty .default = .ok s ∧
      s.holds (board ["new", "open"] []) (board ["open"] []) =
        s.holds (board ["open", "new"] []) (board ["open"] []) := by
  have hunordered : labelFilter.ComparesUnordered catalog model Overrides.empty.fields := by
    refine List.forall_mem_singleton.mpr fun _ _ path type crossed hpath hfollow => ?_
    cases hpath
    cases hfollow
    exact .inr (.inr ⟨.text, .text, rfl, rfl, rfl, rfl⟩)
  have hp : ∀ d ∈ labelFilter.searched, ∀ p, Overrides.empty.get? d.name = some p →
      p (board ["new", "open"] []) (board ["open"] []) =
        p (board ["open", "new"] []) (board ["open"] []) := fun _ _ _ hget => nomatch hget
  obtain ⟨s, hs⟩ : ∃ s, Specification.compile catalog model labelFilter .empty .default = .ok s :=
    ⟨_, rfl⟩
  have hfilter : (board ["open"] []).Conforms catalog labelFilter :=
    List.forall_mem_singleton.mpr (board_conforms _ _ _ List.mem_cons_self)
  exact ⟨hunordered, hp, s, hs, Specification.holds_of_reordered hs hunordered hp
    (board_conforms _ _) hfilter (board_reordered (.swap _ _ _) .rfl) (.refl _)⟩

/-- **Lanes are compared card by card**: a search for a lane finds the board that has it, and no
    longer does when the cards are searched for in another order. -/
theorem holds_of_swapped_cards :
    ∃ s, Specification.compile catalog model laneFilter .empty .default = .ok s ∧
      (board [] ["new", "open"]).Conforms catalog model ∧
      (board [] ["new", "open"]).Conforms catalog laneFilter ∧
      (board [] ["new", "open"]).Reordered (board [] ["open", "new"]) ∧
      s.holds (board [] ["new", "open"]) (board [] ["new", "open"]) = true ∧
      s.holds (board [] ["new", "open"]) (board [] ["open", "new"]) = false :=
  ⟨_, rfl, board_conforms _ _, List.forall_mem_singleton.mpr
    (board_conforms _ _ _ (List.mem_cons_of_mem _ List.mem_cons_self)),
    board_reordered .rfl (.swap _ _ _), rfl, rfl⟩

end Board

end Sift
