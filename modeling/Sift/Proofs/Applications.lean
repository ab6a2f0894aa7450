import Sift.Proofs.Skipping
import Sift.Proofs.Soundness

/-!
# All ways of running a specification agree

A specification can be asked about one record, run on a list, on a choice among records that stay
where they are, or on any source that knows how to keep the records that pass a test. Some ways
narrow everything step by step, others go from record to record and stop at the first step that
fails. This file says that it makes no difference.

* `Specification.filter_eq_chosen` -- filtering is narrowing a choice, all records being chosen at
  first;
* `Specification.left_after` -- what is left of a source after the first narrowings;
* `Specification.tests_of_compile` -- what a compiled specification narrows by are the conditions of
  the fields that count, in declaration order;
* `Specification.applications_agree` -- the main statement.
-/

namespace Sift

namespace Narrowing

/-- A step counts for a filter instance when it has no guard or its guard lets the instance
    through. -/
theorem isActive_eq_all (n : Narrowing) (f : Record) : n.isActive f = n.admits.all (· f) := by
  unfold isActive
  cases n.admits <;> rfl

end Narrowing

namespace Specification

variable (s : Specification) (f : Record)

theorem activeSteps_eq : s.activeSteps f = s.steps.filter fun n => n.admits.all (· f) := by
  unfold activeSteps
  simp only [Narrowing.isActive_eq_all]

/-- The places of the records that pass are left of a choice of all. -/
theorem places_apply (records : List Record) :
    (s.apply (Selection.all records) f).places =
      (List.finRange records.length).filter fun i => s.holds (records.get i) f := by
  rw [apply_eq_narrowAll, Selection.places_narrowAll]
  simp only [holds_eq_all_tests]
  rfl

/-- **Filtering a list is narrowing a choice of all its records.** -/
theorem filter_eq_chosen (records : List Record) :
    s.filter records f = (s.apply (Selection.all records) f).chosen := by
  have hchosen : (s.apply (Selection.all records) f).chosen =
      (Selection.all records).chosen.filter (s.holds · f) := s.left_apply (Selection.all records) f
  rw [hchosen, Selection.chosen_all]
  exact s.filter_eq records f

/-- **After the first narrowings the records are left that pass the first active steps.** -/
theorem left_after {σ : Type} [Source σ] [LawfulSource σ] (source : σ) (k : Nat) :
    LawfulSource.left (Source.narrowAll ((s.tests f).take k) source) =
      (LawfulSource.left source).filter fun r =>
        ((s.activeSteps f).take k).all (·.predicate r f) := by
  rw [LawfulSource.left_narrowAll, tests_eq]
  simp only [← List.map_take, List.all_map]
  rfl

/-- What a source remembers of a run is what was left after each narrowing. -/
theorem trace_eq (records : List Record) :
    s.trace records f = (List.range (s.activeSteps f).length).map fun k =>
      records.filter fun r => ((s.activeSteps f).take (k + 1)).all (·.predicate r f) := by
  have hlength : (s.tests f).length = (s.activeSteps f).length := by
    rw [tests_eq, List.length_map]
  rw [trace, apply_eq_narrowAll, Trail.history_narrowAll, ← hlength]
  show [] ++ (List.range _).map _ = _
  rw [List.nil_append]
  refine List.map_congr_left fun k _ => ?_
  rw [tests_eq]
  simp only [← List.map_take, List.all_map]
  rfl

variable {s f} in
/-- **A compiled specification narrows by the conditions of the fields that count**, one each and in
    declaration order. -/
theorem tests_of_compile {catalog : Catalog} {model filter : Shape} {o : Overrides}
    {options : Options} (hs : compile catalog model filter o options = .ok s) :
    List.Forall₂ (fun d test => ∃ step,
        fieldStep catalog model filter o.fields options d = .ok step ∧
        ∀ r, test r = step.condition.eval o r f)
      (filter.fields.filter (·.counts options f)) (s.tests f) := by
  rw [tests_eq, List.forall₂_map_right_iff]
  exact (activeSteps_of_compile hs f).imp fun _ _ ⟨_, step, hstep, hlower⟩ =>
    ⟨step, hstep, fun r => (hlower r f).2⟩

/-- **All ways of running a specification agree.** On a list of records, filtering, narrowing the
    list, narrowing a choice among its records and taking out what does not pass keep exactly the
    records that pass, as they stand in the list, and counting counts them. On any source a run
    makes one narrowing for each step that has no guard or whose guard lets the instance through,
    in order, and no other: after the first `k` of them the records are left that pass the first
    `k` such steps. Of a compiled specification these are the fields that count, in declaration
    order. -/
theorem applications_agree :
    (∀ records : List Record,
      s.filter records f = records.filter (s.holds · f) ∧
      s.apply records f = records.filter (s.holds · f) ∧
      (s.apply (Selection.all records) f).places =
        (List.finRange records.length).filter (fun i => s.holds (records.get i) f) ∧
      (s.apply (Selection.all records) f).chosen = records.filter (s.holds · f) ∧
      s.retain records f = records.filter (s.holds · f) ∧
      s.count records f = (records.filter (s.holds · f)).length) ∧
    (s.activeSteps f = s.steps.filter (fun n => n.admits.all (· f)) ∧
      s.tests f = (s.activeSteps f).map (fun n r => n.predicate r f) ∧
      (∀ {σ : Type} [Source σ] (source : σ),
        s.apply source f = Source.narrowAll (s.tests f) source) ∧
      (∀ {σ : Type} [Source σ] [LawfulSource σ] (source : σ) (k : Nat),
        LawfulSource.left (Source.narrowAll ((s.tests f).take k) source) =
          (LawfulSource.left source).filter fun r =>
            ((s.activeSteps f).take k).all (·.predicate r f)) ∧
      ∀ records : List Record, s.trace records f =
        (List.range (s.activeSteps f).length).map fun k =>
          records.filter fun r => ((s.activeSteps f).take (k + 1)).all (·.predicate r f)) ∧
    ∀ (catalog : Catalog) (model filter : Shape) (o : Overrides) (options : Options),
      compile catalog model filter o options = .ok s →
      List.Forall₂ (fun d test => ∃ step,
          fieldStep catalog model filter o.fields options d = .ok step ∧
          ∀ r, test r = step.condition.eval o r f)
        (filter.fields.filter (·.counts options f)) (s.tests f) := by
  refine ⟨fun records => ?lists, ⟨s.activeSteps_eq f, s.tests_eq f,
    fun source => s.apply_eq_narrowAll source f, fun source k => s.left_after f source k,
    s.trace_eq f⟩, fun catalog model filter o options hs => tests_of_compile hs⟩
  exact ⟨s.filter_eq records f, s.apply_eq_filter records f, s.places_apply f records,
    (s.filter_eq_chosen f records).symm.trans (s.filter_eq records f), rfl,
    List.countP_eq_length_filter⟩

end Specification

namespace Ticket

/-- A ticket about lost keys that nobody owns. -/
def unowned : Record :=
  ⟨11, true, [("title", .text "lost keys"), ("tags", .list [.text "new"]),
    ("votes", .number (.unsigned 3)), ("owner", .absent)]⟩

/-- The worked filter narrows by the title, the tag and the city: no number of votes is asked for.
    Of a ticket with an owner, one without and the first one again the first and the last pass. -/
theorem applications_agree_any_votes :
    ∃ s, Specification.compile catalog model filter .empty .default = .ok s ∧
      s.filter [lost, unowned, lost] wantedAnyVotes = [lost, lost] ∧
      (s.apply (Selection.all [lost, unowned, lost]) wantedAnyVotes).places = [0, 2] ∧
      s.count [lost, unowned, lost] wantedAnyVotes = 2 ∧
      s.trace [lost, unowned, lost] wantedAnyVotes =
        [[lost, unowned, lost], [lost, unowned, lost], [lost, lost]] ∧
      List.Forall₂ (fun d test => ∃ step,
          fieldStep catalog model filter [] .default d = .ok step ∧
          ∀ r, test r = step.condition.eval .empty r wantedAnyVotes)
        (filter.fields.filter (·.counts .default wantedAnyVotes)) (s.tests wantedAnyVotes) := by
  refine ⟨_, rfl, rfl, rfl, rfl, rfl, ?_⟩
  exact (Specification.applications_agree _ wantedAnyVotes).2.2 catalog model filter .empty
    .default rfl

end Ticket

end Sift
