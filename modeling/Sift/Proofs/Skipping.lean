import Sift.Proofs.Composition

/-!
# A field left empty is as if it were not declared

Under the emptiness policy a criterion whose filter value is empty is skipped. This file says that
skipping leaves no trace: the field could as well not be there. And a value that is not empty is
treated as if there were no policy.

* `Field.counts` -- whether a field takes part in a run with a filter instance;
* `Specification.activeSteps_narrowedBy` -- what a compiled specification runs are the narrowings of
  the fields that count, in declaration order. Everything else follows from this list of fields;
* `Specification.RunsAlike` -- two specifications make the same narrowings one after the other, and
  so give the same results on any source (`Specification.SameResults`);
* `Specification.compile_without` -- the main statement.
-/

namespace Sift

/-! ## 1. The fields that count -/

/-- The emptiness policy is in force for the field: its own setting, else that of the options. -/
def Field.skipsEmpty (options : Options) (d : Field) : Bool :=
  d.settings.ignoreIfEmpty.getD options.ignoreIfEmpty

/-- The field takes part in a run with a filter instance: it is searched, and its value is not an
    empty one that the policy skips. -/
def Field.counts (options : Options) (f : Record) (d : Field) : Bool :=
  !d.settings.ignore && (!d.skipsEmpty options || (Guard.ofType d.type).admits (f.get d.name))

/-- Whether a field counts depends on its value alone, and for a field that is not searched not even
    on that. -/
theorem Field.counts_eq {options : Options} {f f' : Record} {d : Field}
    (h : d.settings.ignore = false → f.get d.name = f'.get d.name) :
    d.counts options f = d.counts options f' := by
  unfold Field.counts
  cases hsearched : d.settings.ignore with
  | true => rfl
  | false => rw [h hsearched]

theorem Field.searched_of_counts {options : Options} {f : Record} {d : Field}
    (h : d.counts options f = true) : d.settings.ignore = false := by
  unfold Field.counts at h
  simp only [Bool.and_eq_true, Bool.not_eq_true'] at h
  exact h.1

/-- The narrowing of a field: it is active when the step of the field lets the instance through, and
    tests the condition of that step. -/
def Field.NarrowedBy (catalog : Catalog) (model : Shape) (options : Options) (o : Overrides)
    (d : Field) (n : Narrowing) : Prop :=
  ∃ step, d.Yields catalog model options (d.name ∈ o.fields) step ∧
    ∀ r f, n.isActive f = step.admits f ∧ n.predicate r f = step.condition.eval o r f

section Narrowings

variable {catalog : Catalog} {model filter : Shape} {options : Options} {o : Overrides} {d : Field}
  {s : Specification} {n : Narrowing}

/-- The narrowing of a field does what any step says that the field yields. -/
theorem Field.NarrowedBy.lowers {step : Step} (h : d.NarrowedBy catalog model options o n)
    (hstep : d.Yields catalog model options (d.name ∈ o.fields) step) (r f : Record) :
    n.isActive f = step.admits f ∧ n.predicate r f = step.condition.eval o r f := by
  obtain ⟨step', hstep', hlower⟩ := h
  rw [hstep.unique hstep']
  exact hlower r f

/-- A step lets an instance through when its field, which is searched, counts for it. -/
theorem admits_eq_counts {overridden : List String} {step : Step}
    (h : fieldStep catalog model filter overridden options d = .ok step)
    (hsearched : d.settings.ignore = false) (f : Record) : step.admits f = d.counts options f := by
  obtain ⟨_, _, _, _, rfl⟩ := fieldStep_eq_ok_iff.mp h
  rw [Step.admits_eq rfl]
  unfold Field.counts Field.skipsEmpty
  rw [hsearched, Bool.not_false, Bool.true_and]

/-- **What runs are the narrowings of the fields that count**, in declaration order, also of a
    filter in which names repeat. -/
theorem Specification.activeSteps_of_compile (hs : compile catalog model filter o options = .ok s)
    (f : Record) :
    List.Forall₂ (fun d n => d ∈ filter.searched ∧ ∃ step,
        fieldStep catalog model filter o.fields options d = .ok step ∧
        ∀ r f, n.isActive f = step.admits f ∧ n.predicate r f = step.condition.eval o r f)
      (filter.fields.filter (·.counts options f)) (s.activeSteps f) := by
  -- within the list the fields are known to be searched
  have hsteps := (List.forall₂_and_left filter.searched s.steps).mpr
    ⟨fun _ hd => hd, steps_of_compile hs⟩
  have hfields : filter.fields.filter (·.counts options f) =
      filter.searched.filter (·.counts options f) := by
    unfold Shape.searched
    rw [List.filter_filter]
    refine List.filter_congr fun d _ => ?_
    unfold Field.counts
    cases d.settings.ignore <;> simp
  rw [hfields]
  refine List.rel_filter ?_ hsteps
  rintro d n ⟨hd, step, hstep, hlower⟩
  simp only [(hlower default f).1, admits_eq_counts hstep (Shape.mem_searched.mp hd).2]

/-- Under distinct names the step of each searched field is the one it yields. -/
theorem Specification.steps_narrowedBy (hn : filter.DistinctNames)
    (hs : compile catalog model filter o options = .ok s) :
    List.Forall₂ (Field.NarrowedBy catalog model options o) filter.searched s.steps :=
  ((List.forall₂_and_left filter.searched s.steps).mpr ⟨fun _ hd => hd, steps_of_compile hs⟩).imp
    fun _ _ ⟨hd, step, hstep, hlower⟩ => ⟨step, (fieldStep_eq_ok_iff_yields hn hd).mp hstep, hlower⟩

/-- Under distinct names the narrowing of each field that counts is its own. -/
theorem Specification.activeSteps_narrowedBy (hn : filter.DistinctNames)
    (hs : compile catalog model filter o options = .ok s) (f : Record) :
    List.Forall₂ (Field.NarrowedBy catalog model options o)
      (filter.fields.filter (·.counts options f)) (s.activeSteps f) :=
  (activeSteps_of_compile hs f).imp fun _ _ ⟨hd, step, hstep, hlower⟩ =>
    ⟨step, (fieldStep_eq_ok_iff_yields hn hd).mp hstep, hlower⟩

end Narrowings

/-! ## 2. Runs that are alike -/

namespace Specification

/-- Two specifications, each with a filter instance of its own, make the same narrowings one after
    the other. -/
def RunsAlike (s : Specification) (f : Record) (s' : Specification) (f' : Record) : Prop :=
  List.Forall₂ (fun n n' => ∀ r, n.predicate r f = n'.predicate r f') (s.activeSteps f)
    (s'.activeSteps f')

/-- Whatever two specifications are run on, each with a filter instance of its own, and in whatever
    way, the results are the same. -/
structure SameResults (s : Specification) (f : Record) (s' : Specification) (f' : Record) :
    Prop where
  apply : ∀ {σ : Type} [Source σ] (source : σ), s.apply source f = s'.apply source f'
  holds : ∀ r, s.holds r f = s'.holds r f'
  filter : ∀ records, s.filter records f = s'.filter records f'
  retain : ∀ records, s.retain records f = s'.retain records f'
  count : ∀ records, s.count records f = s'.count records f'
  trace : ∀ records, s.trace records f = s'.trace records f'

variable {s s' : Specification} {f f' : Record}

/-- Runs that are alike narrow by the same tests. -/
theorem RunsAlike.tests_eq (h : s.RunsAlike f s' f') : s.tests f = s'.tests f' := by
  rw [Specification.tests_eq, Specification.tests_eq, ← List.forall₂_eq_eq_eq,
    List.forall₂_map_left_iff, List.forall₂_map_right_iff]
  exact List.Forall₂.imp (fun _ _ hpredicate => funext hpredicate) h

/-- **The same narrowings leave the same of any source.** -/
theorem RunsAlike.apply_eq (h : s.RunsAlike f s' f') {σ : Type} [Source σ] (source : σ) :
    s.apply source f = s'.apply source f' := by
  rw [apply_eq_narrowAll, apply_eq_narrowAll, h.tests_eq]

theorem RunsAlike.holds_eq (h : s.RunsAlike f s' f') (r : Record) :
    s.holds r f = s'.holds r f' := by
  rw [holds_eq_all_tests, holds_eq_all_tests, h.tests_eq]

theorem RunsAlike.sameResults (h : s.RunsAlike f s' f') : s.SameResults f s' f' where
  apply := h.apply_eq
  holds := h.holds_eq
  filter := h.apply_eq
  retain records := by simp only [retain, h.holds_eq]
  count records := by simp only [count, h.holds_eq]
  trace records := by rw [trace, trace, h.apply_eq]

end Specification

/-! ## 3. The field taken away, or its policy -/

/-- The field with the policy switched off for it. -/
def Field.keepingEmpty (d : Field) : Field :=
  { d with settings := { d.settings with ignoreIfEmpty := some false } }

namespace Shape

/-- The shape without a field. -/
def without (s : Shape) (d : Field) : Shape :=
  { s with fields := s.fields.filter (· ≠ d) }

/-- The shape with the policy switched off for one field. -/
def keepingEmpty (s : Shape) (d : Field) : Shape :=
  { s with fields := s.fields.map fun e => if e = d then e.keepingEmpty else e }

variable {s : Shape} {d e : Field}

theorem DistinctNames.without (hn : s.DistinctNames) : (s.without d).DistinctNames :=
  hn.sublist (List.filter_sublist.map _)

/-- Fields that are changed but not renamed keep their names distinct. -/
theorem DistinctNames.map_fields {g : Field → Field} (hg : ∀ e, (g e).name = e.name)
    (hn : s.DistinctNames) : DistinctNames { s with fields := s.fields.map g } := by
  unfold DistinctNames at hn ⊢
  rw [List.map_map]
  simpa only [Function.comp_def, hg] using hn

theorem DistinctNames.keepingEmpty (hn : s.DistinctNames) : (s.keepingEmpty d).DistinctNames :=
  hn.map_fields fun e => by split <;> rfl

theorem mem_without : e ∈ (s.without d).fields ↔ e ∈ s.fields ∧ e ≠ d := by
  simp [without]

/-- The searched fields are those there were, one of them possibly without its policy. -/
theorem mem_searched_keepingEmpty (h : e ∈ (s.keepingEmpty d).searched) :
    ∃ e' ∈ s.searched, e = e' ∨ e = e'.keepingEmpty := by
  obtain ⟨hmem, hignore⟩ := mem_searched.mp h
  obtain ⟨e', he', rfl⟩ := List.mem_map.mp hmem
  by_cases hed : e' = d
  · rw [if_pos hed] at hignore ⊢
    exact ⟨e', mem_searched.mpr ⟨he', hignore⟩, .inr rfl⟩
  · rw [if_neg hed] at hignore ⊢
    exact ⟨e', mem_searched.mpr ⟨he', hignore⟩, .inl rfl⟩

variable {options : Options} {f f' : Record}

/-- A field that does not count is not missed. -/
theorem filter_counts_without (hskipped : d.counts options f = false)
    (hvalue : ∀ e ∈ (s.without d).searched, f.get e.name = f'.get e.name) :
    (s.without d).fields.filter (·.counts options f') =
      s.fields.filter (·.counts options f) := by
  have hcounts : ∀ e ∈ (s.without d).fields, e.counts options f' = e.counts options f :=
    fun e he => Field.counts_eq fun hsearched =>
      (hvalue e (mem_searched.mpr ⟨he, hsearched⟩)).symm
  rw [List.filter_congr hcounts]
  unfold without
  rw [List.filter_filter]
  refine List.filter_congr fun e _ => ?_
  by_cases hed : e = d
  · simp [hed, hskipped]
  · simp [hed]

/-- A field whose value is not empty counts without the policy as it does with it. -/
theorem filter_counts_keepingEmpty (hset : (Guard.ofType d.type).admits (f.get d.name) = true)
    (hvalue : ∀ e ∈ s.searched, f.get e.name = f'.get e.name) :
    (s.keepingEmpty d).fields.filter (·.counts options f') =
      (s.fields.filter (·.counts options f)).map
        fun e => if e = d then e.keepingEmpty else e := by
  have hcounts : ∀ e ∈ s.fields, e.counts options f' = e.counts options f := fun e he =>
    Field.counts_eq fun hsearched => (hvalue e (mem_searched.mpr ⟨he, hsearched⟩)).symm
  unfold keepingEmpty
  rw [List.filter_map]
  refine congrArg _ (List.filter_congr fun e he => ?_)
  rw [Function.comp_apply, ← hcounts e he]
  by_cases hed : e = d
  · have hset' : e.settings.ignore = false →
        (Guard.ofType e.type).admits (f'.get e.name) = true := by
      intro hsearched
      rw [← hvalue e (mem_searched.mpr ⟨he, hsearched⟩), hed]
      exact hset
    rw [if_pos hed]
    unfold Field.counts Field.keepingEmpty Field.skipsEmpty
    cases hsearched : e.settings.ignore with
    | true => rfl
    | false => simp [hset' hsearched]
  · rw [if_neg hed]

end Shape

section Alike

variable {catalog : Catalog} {model : Shape} {options : Options} {o o' : Overrides}
  {f f' : Record} {d d' : Field} {step step' : Step} {overridden : Prop}

/-- Without the policy a field yields the same step, but for the guard. -/
theorem Field.Yields.keepingEmpty (h : d.Yields catalog model options overridden step) :
    d.keepingEmpty.Yields catalog model options overridden { step with guard := none } := by
  refine ⟨h.field, rfl, h.condition.imp_right ?_⟩
  rintro ⟨hover, side, condition, hr, hcondition⟩
  exact ⟨hover, side, condition, ⟨hr.path, hr.declared, hr.fit, hr.fits⟩, hcondition⟩

/-- **Narrowings of a field test the same**, with the policy or without, for two instances for which
    the same is searched. -/
theorem Field.NarrowedBy.predicate_eq {n n' : Narrowing} (hd : d' = d ∨ d' = d.keepingEmpty)
    (h : d.NarrowedBy catalog model options o n) (h' : d'.NarrowedBy catalog model options o' n')
    (halike : d.SearchedAlike o f o' f') (r : Record) :
    n.predicate r f = n'.predicate r f' := by
  obtain ⟨step, hstep, hlower⟩ := h
  have hover : (d.name ∈ o.fields) = (d.name ∈ o'.fields) := propext halike.overridden_iff
  have hsame : n'.predicate r f' = step.condition.eval o' r f' := by
    have hstep' := hover ▸ hstep
    rcases hd with rfl | rfl
    · exact (h'.lowers hstep' r f').2
    · exact (h'.lowers hstep'.keepingEmpty r f').2
  rw [(hlower r f).2, hsame]
  exact halike.eval_eq hstep

end Alike

/-! ## 4. The main statement -/

namespace Specification

variable {catalog : Catalog} {model filter filter' : Shape} {options : Options}
  {o o' : Overrides} {s s' : Specification} {d : Field}

/-- A specification runs like one for which the same fields count, up to the policy. -/
theorem runsAlike_of_counts {f f' : Record} {g : Field → Field} (hn : filter.DistinctNames)
    (hn' : filter'.DistinctNames) (hs : compile catalog model filter o options = .ok s)
    (hs' : compile catalog model filter' o' options = .ok s')
    (hg : ∀ e, g e = e ∨ g e = e.keepingEmpty)
    (hcounts : filter'.fields.filter (·.counts options f') =
      (filter.fields.filter (·.counts options f)).map g)
    (halike : ∀ e ∈ filter.fields, e.counts options f = true → e.SearchedAlike o f o' f') :
    s.RunsAlike f s' f' := by
  have hactive := activeSteps_narrowedBy hn hs f
  have hactive' := activeSteps_narrowedBy hn' hs' f'
  rw [hcounts, List.forall₂_map_left_iff] at hactive'
  have hfields := (List.forall₂_and_left _ _).mpr
    ⟨fun e he => halike e (List.mem_of_mem_filter he) (List.mem_filter.mp he).2, hactive'⟩
  refine (forall₂_exists_iff.mp ⟨_, hactive.flip, hfields⟩).imp ?_
  rintro n n' ⟨e, hnarrowed, hsame, hnarrowed'⟩ r
  exact Field.NarrowedBy.predicate_eq (hg e) hnarrowed hnarrowed' hsame r

/-- A filter that compiles still does when a field is taken away. -/
theorem compile_isOk_without (hn : filter.DistinctNames)
    (hs : compile catalog model filter o options = .ok s)
    (hover : ∀ e ∈ (filter.without d).searched, (e.name ∈ o.fields ↔ e.name ∈ o'.fields)) :
    ∃ s', compile catalog model (filter.without d) o' options = .ok s' := by
  have hyields := (compile_isOk_iff hn).mp ⟨s, hs⟩
  refine (compile_isOk_iff hn.without).mpr fun e he => ?_
  obtain ⟨hmem, hignore⟩ := Shape.mem_searched.mp he
  rw [← propext (hover e he)]
  exact hyields e (Shape.mem_searched.mpr ⟨(Shape.mem_without.mp hmem).1, hignore⟩)

/-- A filter that compiles still does when the policy is switched off for a field. -/
theorem compile_isOk_keepingEmpty (hn : filter.DistinctNames)
    (hs : compile catalog model filter o options = .ok s)
    (hover : ∀ e ∈ filter.searched, (e.name ∈ o.fields ↔ e.name ∈ o'.fields)) :
    ∃ s', compile catalog model (filter.keepingEmpty d) o' options = .ok s' := by
  have hyields := (compile_isOk_iff hn).mp ⟨s, hs⟩
  refine (compile_isOk_iff hn.keepingEmpty).mpr fun e he => ?_
  obtain ⟨e', he', hkept⟩ := Shape.mem_searched_keepingEmpty he
  obtain ⟨step, hstep⟩ := hyields e' he'
  rw [propext (hover e' he')] at hstep
  rcases hkept with rfl | rfl
  · exact ⟨step, hstep⟩
  · exact ⟨_, hstep.keepingEmpty⟩

/-- **A field left empty is as if it were not declared.** Let a filter compile, and let the emptiness
    policy be in force for one of its fields. Without the field the filter compiles too, and gives
    the same results for every instance whose value of the field is empty. With the policy switched
    off for the field it compiles as well, and gives the same results for every other instance.
    The other filters may have predicates and instances of their own, as long as the same is
    searched for the fields they share. -/
theorem compile_without (hn : filter.DistinctNames)
    (hs : compile catalog model filter o options = .ok s) (hpolicy : d.skipsEmpty options = true) :
    (∀ o' : Overrides,
      (∀ e ∈ (filter.without d).searched, (e.name ∈ o.fields ↔ e.name ∈ o'.fields)) →
      ∃ s', compile catalog model (filter.without d) o' options = .ok s' ∧
        ∀ f f' : Record, (Guard.ofType d.type).admits (f.get d.name) = false →
          (∀ e ∈ (filter.without d).searched, e.SearchedAlike o f o' f') →
          s.SameResults f s' f') ∧
    ∀ o' : Overrides, (∀ e ∈ filter.searched, (e.name ∈ o.fields ↔ e.name ∈ o'.fields)) →
      ∃ s', compile catalog model (filter.keepingEmpty d) o' options = .ok s' ∧
        ∀ f f' : Record, (Guard.ofType d.type).admits (f.get d.name) = true →
          (∀ e ∈ filter.searched, e.SearchedAlike o f o' f') →
          s.SameResults f s' f' := by
  constructor
  · intro o' hover
    obtain ⟨s', hs'⟩ := compile_isOk_without hn hs hover
    refine ⟨s', hs', fun f f' hempty halike => ?_⟩
    have hskipped : d.counts options f = false := by simp [Field.counts, hpolicy, hempty]
    have hcounts := Shape.filter_counts_without hskipped fun e he => (halike e he).value
    refine (runsAlike_of_counts (g := id) hn hn.without hs hs' (fun _ => .inl rfl)
      (hcounts.trans (List.map_id _).symm) fun e he hcount => ?_).sameResults
    refine halike e (Shape.mem_searched.mpr ⟨Shape.mem_without.mpr ⟨he, ?_⟩,
      Field.searched_of_counts hcount⟩)
    rintro rfl
    rw [hskipped] at hcount
    cases hcount
  · intro o' hover
    obtain ⟨s', hs'⟩ := compile_isOk_keepingEmpty hn hs hover
    refine ⟨s', hs', fun f f' hset halike => ?_⟩
    refine (runsAlike_of_counts hn hn.keepingEmpty hs hs' (fun e => ?_)
      (Shape.filter_counts_keepingEmpty hset fun e he => (halike e he).value)
      fun e he hcount => halike e (Shape.mem_searched.mpr
        ⟨he, Field.searched_of_counts hcount⟩)).sameResults
    split
    · exact .inr rfl
    · exact .inl rfl

end Specification

namespace Ticket

/-- The field of the worked filter that asks for a least number of votes. -/
def least : Field :=
  ⟨"least", .number .u32, ⟨.greaterOrEqual, false, some "votes", false, none⟩⟩

/-- Lost keys in Rome, whatever the votes. -/
def wantedAnyVotes : Record :=
  ⟨3, true, [("title", .text "lost keys"), ("tag", .text "done"), ("least", .number (.unsigned 0)),
    ("city", .text "Ro")]⟩

/-- The same search in a form that does not ask for votes. -/
def wantedWithoutVotes : Record :=
  ⟨4, true, [("title", .text "lost keys"), ("tag", .text "done"), ("city", .text "Ro")]⟩

/-- The worked filter with its predicate for the title: asked for no votes, it gives what the filter
    without the field gives; asked for two votes, what the filter gives that takes zero for a wish
    as well. -/
theorem compile_without_least : filter.DistinctNames ∧ least.skipsEmpty .default = true ∧
    ∃ s s' s'', Specification.compile catalog model filter
        (Overrides.empty.register filter sameTitle) .default = .ok s ∧
      Specification.compile catalog model (filter.without least)
        (Overrides.empty.register (filter.without least) sameTitle) .default = .ok s' ∧
      Specification.compile catalog model (filter.keepingEmpty least)
        (Overrides.empty.register filter sameTitle) .default = .ok s'' ∧
      s.SameResults wantedAnyVotes s' wantedWithoutVotes ∧
      s.SameResults wanted s'' wanted := by
  have hn : filter.DistinctNames := by decide
  have hpolicy : least.skipsEmpty .default = true := rfl
  obtain ⟨s, hs⟩ : ∃ s, Specification.compile catalog model filter
      (Overrides.empty.register filter sameTitle) .default = .ok s := ⟨_, rfl⟩
  have halike : ∀ e ∈ (filter.without least).searched, e.SearchedAlike
      (Overrides.empty.register filter sameTitle) wantedAnyVotes
      (Overrides.empty.register (filter.without least) sameTitle) wantedWithoutVotes := by
    refine List.forall_mem_cons.mpr ⟨?title, List.forall_mem_cons.mpr
      ⟨?tag, List.forall_mem_singleton.mpr ?city⟩⟩
    case title => exact ⟨rfl, fun _ => rfl⟩
    case tag => exact ⟨rfl, fun _ => rfl⟩
    case city => exact ⟨rfl, fun _ => rfl⟩
  obtain ⟨s', hs', hskipped⟩ := (Specification.compile_without hn hs hpolicy).1 _
    fun e he => (halike e he).overridden_iff
  obtain ⟨s'', hs'', hset⟩ := (Specification.compile_without hn hs hpolicy).2 _
    fun _ _ => Iff.rfl
  exact ⟨hn, hpolicy, s, s', s'', hs, hs', hs'', hskipped _ _ rfl halike,
    hset wanted wanted rfl fun _ _ => ⟨rfl, fun _ => rfl⟩⟩

end Ticket

end Sift
