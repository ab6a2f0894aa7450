import Mathlib.Data.List.Perm.Basic
import Sift.Proofs.Compilation

/-!
# Filters compose by conjunction

Each field of a filter is searched on its own, so a filter can be cut into two and the parts run one
after the other, in either order, and the fields of a filter can be declared in any order.

* `Field.Passes` -- what a field asks of a record, by the step it yields;
* `Specification.holds_iff_passes` -- a record passes a filter when it passes for every field;
* `Field.SearchedAlike` -- the same is searched for a field under two filters: the instances have
  the same value for it, and a predicate of its own answers alike;
* `Specification.compile_divided` -- the main statement.
-/

namespace Sift

/-! ## 1. One field -/

/-- What a field asks of a record and a filter instance: that the condition of its step holds,
    unless the instance is not let through by the guard. -/
def Field.Passes (catalog : Catalog) (model : Shape) (options : Options) (o : Overrides)
    (r f : Record) (d : Field) : Prop :=
  ∃ step, d.Yields catalog model options (d.name ∈ o.fields) step ∧
    (step.admits f = true → step.condition.eval o r f = true)

/-- The same is searched for a field under two sets of predicates and two filter instances. -/
structure Field.SearchedAlike (o : Overrides) (f : Record) (o' : Overrides) (f' : Record)
    (d : Field) : Prop where
  value : f.get d.name = f'.get d.name
  answer : ∀ r, (o.get? d.name).map (· r f) = (o'.get? d.name).map (· r f')

section Fields

variable {catalog : Catalog} {model filter : Shape} {options : Options} {o o' : Overrides}
  {r f f' : Record} {d : Field} {step : Step}

/-- A field yields one step at most. -/
theorem Field.Yields.unique {overridden : Prop} {step' : Step}
    (h : d.Yields catalog model options overridden step)
    (h' : d.Yields catalog model options overridden step') : step = step' := by
  have hcondition : step.condition = step'.condition := by
    rcases h.condition with ⟨hover, hc⟩ | ⟨hover, side, c, hr, hfound, hc⟩
    · rcases h'.condition with ⟨_, hc'⟩ | ⟨hover', _⟩
      · rw [hc, hc']
      · exact absurd hover hover'
    · rcases h'.condition with ⟨hover', _⟩ | ⟨_, side', c', hr', hfound', hc'⟩
      · exact absurd hover' hover
      · cases hr.unique hr'
        rw [hfound] at hfound'
        cases hfound'
        rw [hc, hc']
  have hfield : step.field = step'.field := h.field.trans h'.field.symm
  have hguard : step.guard = step'.guard := h.guard.trans h'.guard.symm
  cases step
  cases step'
  simp only at hfield hguard hcondition
  rw [hfield, hguard, hcondition]

/-- What a field asks, by the step it yields. -/
theorem Field.Yields.passes_iff (h : d.Yields catalog model options (d.name ∈ o.fields) step) :
    d.Passes catalog model options o r f ↔
      (step.admits f = true → step.condition.eval o r f = true) := by
  constructor
  · rintro ⟨step', h', hpasses⟩
    rwa [h'.unique h] at hpasses
  · exact fun hpasses => ⟨step, h, hpasses⟩

/-- A field that is searched alike has a predicate under both sets or under none. -/
theorem Field.SearchedAlike.overridden_iff (h : d.SearchedAlike o f o' f') :
    d.name ∈ o.fields ↔ d.name ∈ o'.fields := by
  have hanswer := congrArg Option.isSome (h.answer f)
  simp only [Option.isSome_map] at hanswer
  rw [Overrides.mem_fields_iff, Overrides.mem_fields_iff, hanswer]

/-- **The step of a field reads nothing of the instance but the value of the field.** -/
theorem Field.SearchedAlike.eval_eq (h : d.SearchedAlike o f o' f')
    (hstep : d.Yields catalog model options (d.name ∈ o.fields) step) :
    step.condition.eval o r f = step.condition.eval o' r f' := by
  by_cases hover : d.name ∈ o.fields
  · obtain ⟨negate, hc⟩ := hstep.searchedBy.custom_iff.mpr hover
    have hany : ∀ (p : Option Predicate) (g : Record),
        (p.any fun p => p r g) = (p.map fun p => p r g).any id := by
      intro p g
      cases p <;> rfl
    have hcustom : (Condition.custom d.name).eval o r f =
        (Condition.custom d.name).eval o' r f' := by
      simp only [Condition.eval]
      rw [hany, hany, h.answer r]
    rw [hc, Condition.eval_negatedIf, Condition.eval_negatedIf, hcustom]
  · obtain ⟨path, _, _, negate, hc | ⟨comparison, hc⟩⟩ := hstep.searchedBy.reads hover
    · rw [hc, Condition.eval_negatedIf, Condition.eval_negatedIf]
      rfl
    · rw [hc, Condition.eval_negatedIf, Condition.eval_negatedIf]
      simp only [Condition.eval, h.value]

theorem Field.SearchedAlike.admits_eq (h : d.SearchedAlike o f o' f')
    (hstep : d.Yields catalog model options (d.name ∈ o.fields) step) :
    step.admits f = step.admits f' := by
  unfold Step.admits
  rw [hstep.field, h.value]

/-- **A field that is searched alike asks the same of every record.** -/
theorem Field.SearchedAlike.passes_iff (h : d.SearchedAlike o f o' f') :
    d.Passes catalog model options o r f ↔ d.Passes catalog model options o' r f' := by
  have hover : (d.name ∈ o.fields) = (d.name ∈ o'.fields) := propext h.overridden_iff
  unfold Field.Passes
  refine exists_congr fun step => ?_
  rw [← hover]
  refine and_congr_right fun hstep => ?_
  rw [h.admits_eq hstep, h.eval_eq hstep]

/-- **A record passes a compiled filter when it passes for every searched field.** -/
theorem Specification.holds_iff_passes {s : Specification} (hn : filter.DistinctNames)
    (hs : compile catalog model filter o options = .ok s) :
    s.holds r f = true ↔ ∀ d ∈ filter.searched, d.Passes catalog model options o r f := by
  obtain ⟨plan, hplan, _, hholds⟩ := compile_ok hs
  obtain ⟨_, _, hsteps⟩ := (Plan.ofShapes_eq_ok_iff_yields hn).mp hplan
  rw [hholds]
  exact (forall_mem_congr hsteps fun d step hyields => hyields.passes_iff).symm

end Fields

/-! ## 2. Division -/

/-- The fields of a filter are those of two parts, which keep them in any order. -/
def Shape.DividedInto (whole left right : Shape) : Prop :=
  (left.fields ++ right.fields).Perm whole.fields

namespace Shape.DividedInto

variable {whole left right : Shape}

theorem distinctNames (h : whole.DividedInto left right) (hn : whole.DistinctNames) :
    left.DistinctNames ∧ right.DistinctNames := by
  have hnames : ((left.fields ++ right.fields).map (·.name)).Nodup := (h.map _).nodup_iff.mpr hn
  rw [List.map_append] at hnames
  exact ⟨hnames.of_append_left, hnames.of_append_right⟩

/-- What holds of the searched fields of both parts holds of those of the whole. -/
theorem forall_searched_iff (h : whole.DividedInto left right) {P : Field → Prop} :
    (∀ d ∈ whole.searched, P d) ↔ (∀ d ∈ left.searched, P d) ∧ ∀ d ∈ right.searched, P d := by
  have hsearched : ∀ d, d ∈ whole.searched ↔ d ∈ left.searched ∨ d ∈ right.searched := by
    intro d
    rw [mem_searched, mem_searched, mem_searched, ← h.mem_iff, List.mem_append, or_and_right]
  simp only [hsearched, or_imp, forall_and]

end Shape.DividedInto

section Division

variable {catalog : Catalog} {model whole left right : Shape} {options : Options}
  {o oLeft oRight : Overrides}

/-- Whether a filter compiles depends on which of its fields have a predicate, not on the set of
    predicates. -/
theorem Specification.compile_isOk_iff_of_overridden {part : Shape} {oPart : Overrides}
    (hn : part.DistinctNames)
    (h : ∀ d ∈ part.searched, (d.name ∈ o.fields ↔ d.name ∈ oPart.fields)) :
    (∃ s, compile catalog model part oPart options = .ok s) ↔
      ∀ d ∈ part.searched, ∃ step, d.Yields catalog model options (d.name ∈ o.fields) step := by
  rw [compile_isOk_iff hn]
  refine forall₂_congr fun d hd => ?_
  rw [propext (h d hd)]

/-- Two specifications run one after the other keep the records that pass both. -/
theorem Specification.apply_apply (a b : Specification) (records : List Record) (f g : Record) :
    b.apply (a.apply records f) g = records.filter fun r => a.holds r f && b.holds r g := by
  rw [apply_eq_filter, apply_eq_filter, List.filter_filter]
  simp only [Bool.and_comm]

/-- **A record passes a divided filter when it passes both parts.** -/
theorem Specification.holds_divided {s a b : Specification} {r f fLeft fRight : Record}
    (hn : whole.DistinctNames) (hdivided : whole.DividedInto left right)
    (hs : compile catalog model whole o options = .ok s)
    (ha : compile catalog model left oLeft options = .ok a)
    (hb : compile catalog model right oRight options = .ok b)
    (hleft : ∀ d ∈ left.searched, d.SearchedAlike o f oLeft fLeft)
    (hright : ∀ d ∈ right.searched, d.SearchedAlike o f oRight fRight) :
    s.holds r f = (a.holds r fLeft && b.holds r fRight) := by
  have hnames := hdivided.distinctNames hn
  have hpasses : s.holds r f = true ↔ a.holds r fLeft = true ∧ b.holds r fRight = true := by
    rw [holds_iff_passes hn hs, hdivided.forall_searched_iff, holds_iff_passes hnames.1 ha,
      holds_iff_passes hnames.2 hb]
    exact and_congr (forall₂_congr fun d hd => (hleft d hd).passes_iff)
      (forall₂_congr fun d hd => (hright d hd).passes_iff)
  rw [Bool.eq_iff_iff, hpasses, Bool.and_eq_true]

/-- **Filters compose by conjunction.** A filter compiles exactly when both parts of a division
    compile. Running it is running one part and then the other, in either order, on instances that
    search alike; and a filter with the same fields in another order does the same. -/
theorem Specification.compile_divided (hn : whole.DistinctNames)
    (hdivided : whole.DividedInto left right)
    (hleft : ∀ d ∈ left.searched, (d.name ∈ o.fields ↔ d.name ∈ oLeft.fields))
    (hright : ∀ d ∈ right.searched, (d.name ∈ o.fields ↔ d.name ∈ oRight.fields)) :
    ((∃ s, compile catalog model whole o options = .ok s) ↔
      (∃ a, compile catalog model left oLeft options = .ok a) ∧
        ∃ b, compile catalog model right oRight options = .ok b) ∧
    (∀ s a b, compile catalog model whole o options = .ok s →
      compile catalog model left oLeft options = .ok a →
      compile catalog model right oRight options = .ok b →
      ∀ f fLeft fRight, (∀ d ∈ left.searched, d.SearchedAlike o f oLeft fLeft) →
        (∀ d ∈ right.searched, d.SearchedAlike o f oRight fRight) →
      ∀ records : List Record,
        s.apply records f = b.apply (a.apply records fLeft) fRight ∧
        s.apply records f = a.apply (b.apply records fRight) fLeft) ∧
    ∀ permuted : Shape, permuted.fields.Perm whole.fields →
      ((∃ p, compile catalog model permuted o options = .ok p) ↔
        ∃ s, compile catalog model whole o options = .ok s) ∧
      ∀ p s, compile catalog model permuted o options = .ok p →
        compile catalog model whole o options = .ok s →
        ∀ (records : List Record) (f : Record), p.apply records f = s.apply records f := by
  have hnames := hdivided.distinctNames hn
  refine ⟨?_, ?_, ?_⟩
  · rw [compile_isOk_iff hn, compile_isOk_iff_of_overridden hnames.1 hleft,
      compile_isOk_iff_of_overridden hnames.2 hright, hdivided.forall_searched_iff]
  · intro s a b hs ha hb f fLeft fRight hf hf' records
    have hholds : ∀ r, s.holds r f = (a.holds r fLeft && b.holds r fRight) := fun r =>
      holds_divided hn hdivided hs ha hb hf hf'
    rw [apply_apply, apply_apply, apply_eq_filter]
    refine ⟨List.filter_congr fun r _ => hholds r, List.filter_congr fun r _ => ?_⟩
    rw [hholds, Bool.and_comm]
  · intro permuted hperm
    have hpermuted : permuted.DistinctNames := (hperm.map _).nodup_iff.mpr hn
    have hsearched : ∀ P : Field → Prop,
        (∀ d ∈ permuted.searched, P d) ↔ ∀ d ∈ whole.searched, P d := by
      intro P
      simp only [Shape.mem_searched, hperm.mem_iff]
    refine ⟨?_, ?_⟩
    · rw [compile_isOk_iff hn, compile_isOk_iff hpermuted, hsearched]
    · intro p s hp hs records f
      rw [apply_eq_filter, apply_eq_filter]
      refine List.filter_congr fun r _ => Bool.eq_iff_iff.mpr ?_
      rw [holds_iff_passes hpermuted hp, holds_iff_passes hn hs, hsearched]

end Division

namespace Ticket

/-- A predicate of its own for the title. -/
def sameTitle : Registration :=
  ⟨"title", .text, fun r f => (r.get "title").sameAs (f.get "title")⟩

/-- The part of the worked filter that says who a ticket is from and what it is about. -/
def headerFilter : Shape :=
  ⟨"HeaderFilter",
    [⟨"city", .optional .text, ⟨.startsWith, false, some "owner.city", false, some false⟩⟩,
      ⟨"title", .text, .default⟩]⟩

/-- The other part, in an order of its own. -/
def standingFilter : Shape :=
  ⟨"StandingFilter",
    [⟨"page", .number .u32, ⟨.auto, false, none, true, none⟩⟩,
      ⟨"least", .number .u32, ⟨.greaterOrEqual, false, some "votes", false, none⟩⟩,
      ⟨"tag", .text, ⟨.auto, true, some "tags", false, none⟩⟩]⟩

/-- Lost keys in Rome with two votes, not yet done. -/
def wanted : Record :=
  ⟨0, true, [("title", .text "lost keys"), ("tag", .text "done"), ("least", .number (.unsigned 2)),
    ("city", .text "Ro"), ("page", .number (.unsigned 1))]⟩

def wantedHeader : Record :=
  ⟨1, true, [("city", .text "Ro"), ("title", .text "lost keys")]⟩

def wantedStanding : Record :=
  ⟨2, true, [("page", .number (.unsigned 1)), ("least", .number (.unsigned 2)),
    ("tag", .text "done")]⟩

/-- The worked filter with its predicate for the title, cut in two. The part without the title has
    no predicates. -/
theorem compile_divided_header_standing : filter.DistinctNames ∧
    filter.DividedInto headerFilter standingFilter ∧
    ∃ s a b, Specification.compile catalog model filter
        (Overrides.empty.register filter sameTitle) .default = .ok s ∧
      Specification.compile catalog model headerFilter
        (Overrides.empty.register headerFilter sameTitle) .default = .ok a ∧
      Specification.compile catalog model standingFilter .empty .default = .ok b ∧
      ∀ records : List Record,
        s.apply records wanted = b.apply (a.apply records wantedHeader) wantedStanding ∧
        s.apply records wanted = a.apply (b.apply records wantedStanding) wantedHeader := by
  have hn : filter.DistinctNames := by decide
  have hdivided : filter.DividedInto headerFilter standingFilter := by
    unfold Shape.DividedInto
    decide
  have hheader : ∀ d ∈ headerFilter.searched, d.SearchedAlike
      (Overrides.empty.register filter sameTitle) wanted
      (Overrides.empty.register headerFilter sameTitle) wantedHeader := by
    refine List.forall_mem_cons.mpr ⟨?city, List.forall_mem_singleton.mpr ?title⟩
    case city => exact ⟨rfl, fun _ => rfl⟩
    case title => exact ⟨rfl, fun _ => rfl⟩
  have hstanding : ∀ d ∈ standingFilter.searched, d.SearchedAlike
      (Overrides.empty.register filter sameTitle) wanted .empty wantedStanding := by
    refine List.forall_mem_cons.mpr ⟨?least, List.forall_mem_singleton.mpr ?tag⟩
    case least => exact ⟨rfl, fun _ => rfl⟩
    case tag => exact ⟨rfl, fun _ => rfl⟩
  have hparts : (∃ a, Specification.compile catalog model headerFilter
        (Overrides.empty.register headerFilter sameTitle) .default = .ok a) ∧
      ∃ b, Specification.compile catalog model standingFilter .empty .default = .ok b :=
    ⟨⟨_, rfl⟩, ⟨_, rfl⟩⟩
  have hheader' := fun d hd => (hheader d hd).overridden_iff
  have hstanding' := fun d hd => (hstanding d hd).overridden_iff
  obtain ⟨s, hs⟩ :=
    (Specification.compile_divided hn hdivided hheader' hstanding').1.mpr hparts
  obtain ⟨⟨a, ha⟩, b, hb⟩ := hparts
  have hruns := (Specification.compile_divided hn hdivided hheader' hstanding').2.1 s a b hs ha hb
  exact ⟨hn, hdivided, s, a, b, hs, ha, hb,
    hruns wanted wantedHeader wantedStanding hheader hstanding⟩

end Ticket

end Sift
