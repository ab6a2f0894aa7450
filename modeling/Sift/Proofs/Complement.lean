import Sift.Proofs.Skipping

/-!
# A negated field selects the complement

A field that is negated keeps the records that it would leave out, and leaves out those it would
keep. The negation is applied last and a doubled one is taken away; this file says that what comes
out is the exact complement, whatever the operator and also where nothing is there to compare.

* `Field.flipped` -- the field with its negation turned round;
* `Field.Yields.flipped` -- its step has the same guard and the opposite condition;
* `Specification.compile_flipped_eq_error_iff` -- the negation has no part in what a filter is
  refused for;
* `Specification.withoutStep` -- a specification without one of its steps, which selects the records
  that pass all the others;
* `Specification.compile_flipped` -- the main statement.
-/

namespace Sift

/-! ## 1. The negation turned round -/

/-- The field with another negation. -/
def Field.withNegate (d : Field) (negate : Bool) : Field :=
  { d with settings := { d.settings with negate } }

/-- The field with its negation turned round. -/
def Field.flipped (d : Field) : Field := d.withNegate (!d.settings.negate)

/-- The shape with the negation of one field turned round. -/
def Shape.flipped (s : Shape) (d : Field) : Shape :=
  { s with fields := s.fields.map fun e => if e = d then e.flipped else e }

/-- The flipped field and every other one differ from what they were in their negation at most. -/
theorem Field.flipped_at_eq_withNegate (d e : Field) :
    ∃ negate, (if e = d then e.flipped else e) = e.withNegate negate := by
  split
  · exact ⟨_, rfl⟩
  · exact ⟨e.settings.negate, rfl⟩

namespace Shape

variable {s : Shape} {d : Field}

theorem DistinctNames.flipped (hn : s.DistinctNames) : (s.flipped d).DistinctNames :=
  hn.map_fields fun e => by split <;> rfl

theorem searched_flipped (s : Shape) (d : Field) :
    (s.flipped d).searched = s.searched.map fun e => if e = d then e.flipped else e := by
  unfold searched flipped
  rw [List.filter_map]
  refine congrArg _ (List.filter_congr fun e _ => ?_)
  rw [Function.comp_apply]
  split <;> rfl

/-- The flipped field stands where the field stood, and no other field is changed. -/
theorem searched_flipped_eq (hn : s.DistinctNames) {before after : List Field}
    (h : s.searched = before ++ d :: after) :
    (s.flipped d).searched = before ++ d.flipped :: after := by
  have hnodup : (before ++ d :: after).Nodup := by
    rw [← h]
    exact (hn.sublist (List.filter_sublist.map _)).of_map _
  have hother : ∀ e ∈ before ++ after, e ≠ d := by
    rintro e he rfl
    exact (List.nodup_cons.mp (List.perm_middle.nodup_iff.mp hnodup)).1 he
  have hkept : ∀ part : List Field, (∀ e ∈ part, e ∈ before ++ after) →
      part.map (fun e => if e = d then e.flipped else e) = part := by
    intro part hpart
    refine (List.map_congr_left fun e he => ?_).trans (List.map_id part)
    exact if_neg (hother e (hpart e he))
  rw [searched_flipped, h, List.map_append, List.map_cons, if_pos rfl,
    hkept before fun _ => List.mem_append_left after,
    hkept after fun _ => List.mem_append_right before]

end Shape

/-- Two narrowings are active for the same instances and test the same. -/
structure Narrowing.DoesTheSame (n n' : Narrowing) : Prop where
  active : ∀ f, n'.isActive f = n.isActive f
  predicate : ∀ r f, n'.predicate r f = n.predicate r f

section Fields

variable {catalog : Catalog} {model : Shape} {options : Options} {o : Overrides} {d : Field}
  {step : Step} {overridden : Prop} {n n' : Narrowing}

/-- A reading of the model does not depend on the negation. -/
theorem ModelSide.Reads.withNegate {side : ModelSide} (h : side.Reads catalog model d)
    (negate : Bool) : side.Reads catalog model (d.withNegate negate) :=
  ⟨h.path, h.declared, h.fit, h.fits⟩

/-- **The step of the flipped field has the same guard and the opposite condition.** -/
theorem Field.Yields.flipped (h : d.Yields catalog model options overridden step) :
    ∃ c, d.flipped.Yields catalog model options overridden { step with condition := c } ∧
      ∀ o r f, c.eval o r f = !step.condition.eval o r f := by
  -- what a field asks before its negation is the same for both
  have turned : ∀ c : Condition, step.condition = c.negatedIf d.settings.negate → ∀ o r f,
      (c.negatedIf (!d.settings.negate)).eval o r f = !step.condition.eval o r f := by
    intro c hc o r f
    rw [hc, Condition.eval_negatedIf, Condition.eval_negatedIf, Bool.not_xor]
  rcases h.condition with ⟨hover, hc⟩ | ⟨hover, side, c, hr, hfound, hc⟩
  · exact ⟨(Condition.custom d.name).negatedIf (!d.settings.negate),
      ⟨h.field, h.guard, .inl ⟨hover, rfl⟩⟩, turned _ hc⟩
  · exact ⟨c.negatedIf (!d.settings.negate),
      ⟨h.field, h.guard, .inr ⟨hover, side, c, hr.withNegate _, hfound, rfl⟩⟩, turned c hc⟩

/-- The narrowing of the flipped field is active for the same instances and tests the opposite. -/
theorem Field.NarrowedBy.flipped (h : d.NarrowedBy catalog model options o n)
    (h' : d.flipped.NarrowedBy catalog model options o n') :
    (∀ f, n'.isActive f = n.isActive f) ∧ ∀ r f, n'.predicate r f = !n.predicate r f := by
  obtain ⟨step, hstep, hlower⟩ := h
  obtain ⟨c, hflipped, hopposite⟩ := hstep.flipped
  have hlower' := h'.lowers hflipped
  refine ⟨fun f => ?_, fun r f => ?_⟩
  · rw [(hlower' default f).1, (hlower default f).1]
    rfl
  · rw [(hlower' r f).2, (hlower r f).2, hopposite]

/-- All narrowings of a field do the same. -/
theorem Field.NarrowedBy.doesTheSame (h : d.NarrowedBy catalog model options o n)
    (h' : d.NarrowedBy catalog model options o n') : n.DoesTheSame n' := by
  obtain ⟨step, hstep, hlower⟩ := h
  have hlower' := h'.lowers hstep
  exact ⟨fun f => (hlower' default f).1.trans (hlower default f).1.symm,
    fun r f => (hlower' r f).2.trans (hlower r f).2.symm⟩

/-- All narrowings of a list of fields do the same, one by one. -/
theorem forall₂_doesTheSame {fields : List Field} {ns ns' : List Narrowing}
    (h : List.Forall₂ (Field.NarrowedBy catalog model options o) fields ns)
    (h' : List.Forall₂ (Field.NarrowedBy catalog model options o) fields ns') :
    List.Forall₂ Narrowing.DoesTheSame ns ns' :=
  (forall₂_exists_iff.mp ⟨fields, h.flip, h'⟩).imp fun _ _ ⟨_, hn, hn'⟩ =>
    Field.NarrowedBy.doesTheSame hn hn'

end Fields

/-! ## 2. What a filter is refused for -/

section Errors

variable {catalog : Catalog} {model filter filter' : Shape} {options : Options} {o : Overrides}
  {overridden : List String} {d : Field} {error : Error} {b : Bool}

theorem Field.Unresolvable.withNegate (hname : filter'.name = filter.name)
    (h : d.Unresolvable catalog model filter error) :
    (d.withNegate b).Unresolvable catalog model filter' error := by
  cases h with
  | nowhere hpath hleads =>
    rw [← hname]
    exact .nowhere (d := d.withNegate b) hpath hleads
  | unfit hpath hleads hfit hop =>
    rw [← hname]
    exact .unfit (d := d.withNegate b) hpath hleads hfit hop
  | unmatched hpath hfit =>
    rw [← hname]
    exact .unmatched (d := d.withNegate b) hpath hfit

theorem Field.Rejected.withNegate (hname : filter'.name = filter.name)
    (h : d.Rejected catalog model filter options error) :
    (d.withNegate b).Rejected catalog model filter' options error := by
  obtain ⟨hr, hnone⟩ := h
  rw [← hname]
  exact .operator (d := d.withNegate b) (hr.withNegate b) hnone

/-- What does not depend on a negation, nor on the fields of the filter, is said of the flipped
    filter and its fields when it is said of the filter and its fields. -/
theorem Field.flipped_at_iff {P : Shape → Field → Prop}
    (hP : ∀ {filter filter' : Shape} {e : Field} (b : Bool), filter'.name = filter.name →
      P filter e → P filter' (e.withNegate b)) (filter : Shape) (d e : Field) :
    P (filter.flipped d) (if e = d then e.flipped else e) ↔ P filter e := by
  obtain ⟨b, hb⟩ := Field.flipped_at_eq_withNegate d e
  have hname : (filter.flipped d).name = filter.name := rfl
  rw [hb]
  constructor
  · intro h
    -- turned back, the field is what it was
    have hback : P filter ((e.withNegate b).withNegate e.settings.negate) := hP _ hname.symm h
    exact hback
  · exact hP b hname

/-- **The negation of a field has no part in what a plan is refused for.** -/
theorem Plan.ofShapes_flipped_eq_error_iff (hn : filter.DistinctNames) :
    Plan.ofShapes catalog model (filter.flipped d) overridden options = .error error ↔
      Plan.ofShapes catalog model filter overridden options = .error error := by
  rw [Plan.ofShapes_eq_error_iff hn.flipped, Plan.ofShapes_eq_error_iff hn,
    Shape.searched_flipped]
  have hunresolvable := fun e error => Field.flipped_at_iff
    (P := fun filter e => e.name ∉ overridden ∧ e.Unresolvable catalog model filter error)
    (fun _ hname h => ⟨h.1, h.2.withNegate hname⟩) filter d e
  have hrejected := fun e error => Field.flipped_at_iff
    (P := fun filter e => e.name ∉ overridden ∧ e.Rejected catalog model filter options error)
    (fun _ hname h => ⟨h.1, h.2.withNegate hname⟩) filter d e
  have hfirst : ∀ {P Q : Field → Error → Prop},
      (∀ e error, P (if e = d then e.flipped else e) error ↔ Q e error) →
      (FirstOf P (filter.searched.map fun e => if e = d then e.flipped else e) error ↔
        FirstOf Q filter.searched error) := by
    intro P Q h
    refine firstOf_congr (List.forall₂_map_left_iff.mpr ?_)
    exact List.forall₂_same.mpr fun e _ error => h e error
  refine or_congr (hfirst hunresolvable) (and_congr ?_ (hfirst hrejected))
  rw [List.forall_mem_map]
  exact forall₂_congr fun e _ => forall_congr' fun error => not_congr (hunresolvable e error)

/-- **The negation of a field has no part in what a filter is refused for.** -/
theorem Specification.compile_flipped_eq_error_iff (hn : filter.DistinctNames) :
    compile catalog model (filter.flipped d) o options = .error error ↔
      compile catalog model filter o options = .error error := by
  rw [compile_eq_error_iff, compile_eq_error_iff, Plan.ofShapes_flipped_eq_error_iff hn]

end Errors

/-! ## 3. One step and all the others -/

/-- The partners of a list that is cut at an element are cut at the partner of it. -/
theorem forall₂_cut {α β : Type} {R : α → β → Prop} {before after : List α} {x : α}
    {ys : List β} (h : List.Forall₂ R (before ++ x :: after) ys) :
    ∃ before' y after', ys = before' ++ y :: after' ∧
      List.Forall₂ R before before' ∧ R x y ∧ List.Forall₂ R after after' := by
  induction before generalizing ys with
  | nil =>
    obtain ⟨y, after', hxy, hafter, rfl⟩ := List.forall₂_cons_left_iff.mp h
    exact ⟨[], y, after', rfl, .nil, hxy, hafter⟩
  | cons z before ih =>
    obtain ⟨w, ys, hzw, hrest, rfl⟩ := List.forall₂_cons_left_iff.mp h
    obtain ⟨before', y, after', rfl, hbefore, hxy, hafter⟩ := ih hrest
    exact ⟨w :: before', y, after', rfl, .cons hzw hbefore, hxy, hafter⟩

namespace Specification

/-- The specification without one of its steps. -/
def withoutStep (s : Specification) (i : Nat) : Specification :=
  { s with steps := s.steps.eraseIdx i }

theorem holds_eq_all (s : Specification) (r f : Record) :
    s.holds r f = s.steps.all fun n => !n.isActive f || n.predicate r f := by
  unfold holds activeSteps
  rw [List.all_filter]

theorem steps_withoutStep {s : Specification} {before after : List Narrowing} {n : Narrowing}
    (h : s.steps = before ++ n :: after) :
    (s.withoutStep before.length).steps = before ++ after := by
  unfold withoutStep
  rw [h, List.eraseIdx_append_of_length_le (Nat.le_refl _), Nat.sub_self, List.eraseIdx_zero,
    List.tail_cons]

/-- **A record passes when it passes all steps but one, and that one if it is active.** -/
theorem holds_eq_withoutStep {s : Specification} {before after : List Narrowing} {n : Narrowing}
    (h : s.steps = before ++ n :: after) (r f : Record) :
    s.holds r f =
      ((s.withoutStep before.length).holds r f && (!n.isActive f || n.predicate r f)) := by
  rw [holds_eq_all, holds_eq_all, steps_withoutStep h, h, List.all_append, List.all_append,
    List.all_cons]
  simp only [Bool.and_comm, Bool.and_left_comm]

/-- Specifications whose steps do the same let the same records pass. -/
theorem holds_eq_of_doTheSame {s s' : Specification}
    (h : List.Forall₂ Narrowing.DoesTheSame s.steps s'.steps) (r f : Record) :
    s'.holds r f = s.holds r f := by
  rw [holds_eq_all, holds_eq_all]
  generalize s.steps = ns, s'.steps = ns' at h
  induction h with
  | nil => rfl
  | cons hn _ ih => rw [List.all_cons, List.all_cons, ih, hn.active, hn.predicate]

/-! ## 4. The main statement -/

section Main

variable {catalog : Catalog} {model filter : Shape} {options : Options} {o : Overrides} {d : Field}

/-- A filter compiles with the negation of a field turned round if it compiles. -/
theorem compile_isOk_flipped {s : Specification} (hn : filter.DistinctNames)
    (hs : compile catalog model filter o options = .ok s) :
    ∃ s', compile catalog model (filter.flipped d) o options = .ok s' := by
  cases hs' : compile catalog model (filter.flipped d) o options with
  | ok s' => exact ⟨s', rfl⟩
  | error e =>
    rw [compile_flipped_eq_error_iff hn, hs] at hs'
    cases hs'

/-- **A negated field selects the complement.** Turn the negation of one searched field round. The
    filter compiles as before, or is refused for the same reason. Where it compiles, take the step
    of the field: for an instance for which it is active, the two filters share out the records that
    pass all other active steps, each going to exactly one of them; for any other instance they
    select the same records. -/
theorem compile_flipped (hn : filter.DistinctNames) (hd : d ∈ filter.searched) :
    (∀ e, compile catalog model (filter.flipped d) o options = .error e ↔
      compile catalog model filter o options = .error e) ∧
    ∀ s, compile catalog model filter o options = .ok s →
      ∃ s' i n, compile catalog model (filter.flipped d) o options = .ok s' ∧
        filter.searched[i]? = some d ∧ s.steps[i]? = some n ∧
        ∀ f : Record, n.isActive f = d.counts options f ∧ ∀ records : List Record,
          (n.isActive f = true →
            s.filter records f = ((s.withoutStep i).filter records f).filter (n.predicate · f) ∧
            s'.filter records f =
              ((s.withoutStep i).filter records f).filter (!n.predicate · f)) ∧
          (n.isActive f = false → s'.filter records f = s.filter records f) := by
  refine ⟨fun e => compile_flipped_eq_error_iff hn, fun s hs => ?_⟩
  obtain ⟨s', hs'⟩ := compile_isOk_flipped (d := d) hn hs
  -- both filters are cut at the field, and their steps with them
  obtain ⟨fields, fields', hsearched⟩ := List.append_of_mem hd
  have hsteps := steps_narrowedBy hn hs
  rw [hsearched] at hsteps
  have hsteps' := steps_narrowedBy hn.flipped hs'
  rw [Shape.searched_flipped_eq hn hsearched] at hsteps'
  obtain ⟨before, n, after, hcut, hbefore, hstep, hafter⟩ := forall₂_cut hsteps
  obtain ⟨before', n', after', hcut', hbefore', hstep', hafter'⟩ := forall₂_cut hsteps'
  obtain ⟨hactive, hopposite⟩ := hstep.flipped hstep'
  have hothers : ∀ r f, (s'.withoutStep before'.length).holds r f =
      (s.withoutStep before.length).holds r f := by
    refine holds_eq_of_doTheSame ?_
    rw [steps_withoutStep hcut, steps_withoutStep hcut']
    exact List.rel_append (forall₂_doesTheSame hbefore hbefore')
      (forall₂_doesTheSame hafter hafter')
  have hpass := fun r f => holds_eq_withoutStep hcut r f
  have hpass' := fun r f => holds_eq_withoutStep hcut' r f
  simp only [hothers, hactive, hopposite] at hpass'
  refine ⟨s', before.length, n, hs', ?place, ?taken, fun f => ⟨?counts, fun records =>
    ⟨fun hf => ⟨?kept, ?dropped⟩, fun hf => ?skipped⟩⟩⟩
  case place =>
    rw [hsearched, ← hbefore.length_eq]
    simp
  case taken =>
    rw [hcut]
    simp
  case counts =>
    obtain ⟨step, hyields, hlower⟩ := hstep
    rw [(hlower default f).1]
    exact admits_eq_counts ((fieldStep_eq_ok_iff_yields hn hd).mpr hyields)
      (Shape.mem_searched.mp hd).2 f
  case kept =>
    rw [filter_eq, filter_eq, List.filter_filter]
    simp only [hpass, hf, Bool.not_true, Bool.false_or, Bool.and_comm]
  case dropped =>
    rw [filter_eq, filter_eq, List.filter_filter]
    simp only [hpass', hf, Bool.not_true, Bool.false_or, Bool.and_comm]
  case skipped =>
    rw [filter_eq, filter_eq]
    simp only [hpass, hpass', hf, Bool.not_false, Bool.true_or]

end Main

end Specification

namespace Ticket

/-- The field of the worked filter that names a tag to leave out. -/
def tag : Field := ⟨"tag", .text, ⟨.auto, true, some "tags", false, none⟩⟩

/-- The worked filter with its predicate for the title leaves a tag out. Turned round, it asks for
    that tag. -/
theorem compile_flipped_tag : filter.DistinctNames ∧ tag ∈ filter.searched ∧
    ∃ s s' i n, Specification.compile catalog model filter
        (Overrides.empty.register filter sameTitle) .default = .ok s ∧
      Specification.compile catalog model (filter.flipped tag)
        (Overrides.empty.register filter sameTitle) .default = .ok s' ∧
      filter.searched[i]? = some tag ∧ s.steps[i]? = some n ∧ n.isActive wanted = true ∧
      ∀ records : List Record,
        s.filter records wanted =
          ((s.withoutStep i).filter records wanted).filter (n.predicate · wanted) ∧
        s'.filter records wanted =
          ((s.withoutStep i).filter records wanted).filter (!n.predicate · wanted) := by
  have hn : filter.DistinctNames := by decide
  have hd : tag ∈ filter.searched := by decide
  obtain ⟨s, hs⟩ : ∃ s, Specification.compile catalog model filter
      (Overrides.empty.register filter sameTitle) .default = .ok s := ⟨_, rfl⟩
  obtain ⟨s', i, n, hs', hplace, hstep, hruns⟩ := (Specification.compile_flipped hn hd).2 s hs
  have hactive : n.isActive wanted = true := (hruns wanted).1.trans rfl
  exact ⟨hn, hd, s, s', i, n, hs, hs', hplace, hstep, hactive,
    fun records => ((hruns wanted).2 records).1 hactive⟩

end Ticket

end Sift
