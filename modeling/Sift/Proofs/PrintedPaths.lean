import Sift.Proofs.DottedText
import Sift.Proofs.Walks

/-!
# The paths a plan prints

A condition names the path it reads by its dotted text. A path enters a plan in one of two ways: it
is declared, and then it was cut at its dots, or it is a field name taken whole. This file says
which of them are read back from what the plan prints:

* `Condition.path?` -- the path a condition reads the model at;
* `fieldStep_path?` -- the step of a field reads the path of the target found for the field, and
  only a registered predicate reads none;
* `Field.Printable` -- the fields whose path is read back;
* `Plan.paths_read_back` -- the main statement. A name with a dot in it is printed like a declared
  path, and what is read back may lead elsewhere: `Ticket.dotted_name_read_elsewhere`.
-/

namespace Sift

/-! ## 1. The path of a condition -/

namespace Condition

/-- The path a condition reads the model at. A registered predicate has none. -/
def path? : Condition → Option Path
  | .compare _ path _ | .isNull path => some path
  | .custom _ => none
  | .not inner => inner.path?

@[simp] theorem path?_negated (c : Condition) : c.negated.path? = c.path? := by
  cases c <;> rfl

@[simp] theorem path?_negatedIf (c : Condition) (negate : Bool) :
    (c.negatedIf negate).path? = c.path? := by
  cases negate <;> simp

end Condition

/-- Whatever an operator makes of a model side, it reads the path of the side. -/
theorem ModelSide.path?_of_condition? {side : ModelSide} {like : LikeMode} {field : String}
    {filterType : FieldType} {op : Operator} {made : Condition}
    (h : side.condition? like field filterType op = some made) : made.path? = some side.path := by
  rcases condition?_cases h with ⟨_, _, rfl⟩ | ⟨_, _, _, rfl⟩
  · exact Condition.path?_negatedIf _ _
  · exact Condition.path?_negatedIf _ _

/-- **A field is printable** if it declares a path, or else has a name that is not empty and has no
    dot in it. -/
def Field.Printable (d : Field) : Prop :=
  d.settings.path = none → d.name ≠ "" ∧ '.' ∉ d.name.toList

instance (d : Field) : Decidable d.Printable :=
  inferInstanceAs (Decidable (d.settings.path = none → d.name ≠ "" ∧ '.' ∉ d.name.toList))

/-- The path of a field is plain exactly if the field is printable. -/
theorem Field.plain_iff {d : Field} {p : Path} (h : d.modelPath? = some p) :
    p.Plain ↔ d.Printable := by
  unfold modelPath? at h
  split at h
  · rename_i text htext
    -- a declared path was read from a text
    refine iff_of_true (Path.parse?_eq_some_iff.mp h).1 fun hnone => ?_
    rw [htext] at hnone
    cases hnone
  · rename_i hpath
    cases h
    rw [Path.plain_single_iff, Printable, forall_prop_of_true hpath]

section Printing

variable {catalog : Catalog} {model filter : Shape} {overridden : List String} {options : Options}
  {d : Field} {step : Step}

/-! ## 2. The path of a step -/

/-- **The step of a field reads the path of its target.** -/
theorem fieldStep_path? (h : fieldStep catalog model filter overridden options d = .ok step) :
    (d.name ∈ overridden ∧ step.condition.path? = none) ∨
      (d.name ∉ overridden ∧ ∃ side : ModelSide, Target.ofField catalog filter model overridden
          (FieldMatch.all filter model) d = .ok (.model side) ∧
        step.condition.path? = some side.path) := by
  rcases fieldStep_condition_cases h with ⟨hover, hc⟩ | ⟨hover, side, made, htarget, hmade, hc⟩
  · refine .inl ⟨hover, ?_⟩
    rw [hc, Condition.path?_negatedIf]
    rfl
  · refine .inr ⟨hover, side, htarget, ?_⟩
    rw [hc, Condition.path?_negatedIf]
    exact ModelSide.path?_of_condition? hmade

/-- A step prints a path that is read back exactly if its field is printable or has a predicate. -/
theorem fieldStep_reads_back_iff
    (h : fieldStep catalog model filter overridden options d = .ok step) :
    (∀ p, step.condition.path? = some p → Path.parse? p.display = some p) ↔
      (d.name ∉ overridden → d.Printable) := by
  rcases fieldStep_path? h with ⟨hover, hnone⟩ | ⟨hover, side, htarget, hpath⟩
  · simp [hover, hnone]
  · simp only [hpath, Option.some.injEq, forall_eq', hover, not_false_eq_true, forall_const,
      Path.parse?_display_iff]
    exact Field.plain_iff (Target.ofField_declared htarget).path

/-! ## 3. The paths of a plan -/

/-- **Which paths are read back from a plan.** Each step is that of a searched field. The path it
    reads, if it reads one, is the path of the field and of the target found for it, and leads to a
    field of the target's type. Both reading the printed path and resolving it give this path again
    exactly if the field is printable. All paths of a plan are read back when every searched field
    without a predicate is printable. -/
theorem Plan.paths_read_back {plan : Plan}
    (h : Plan.ofShapes catalog model filter overridden options = .ok plan) :
    List.Forall₂ (fun d step => ∀ p, step.condition.path? = some p →
        d.modelPath? = some p ∧ ∃ side : ModelSide, ∃ crossed,
          Target.ofField catalog filter model overridden (FieldMatch.all filter model) d =
            .ok (.model side) ∧ side.path = p ∧
          Path.follow? catalog model p.segments = some (side.type, crossed) ∧
          (Path.parse? p.display = some p ↔ d.Printable) ∧
          (Path.resolve? catalog model p.display = some ⟨p, side.type, crossed⟩ ↔ d.Printable))
      filter.searched plan.steps ∧
    ((∀ step ∈ plan.steps, ∀ p, step.condition.path? = some p → Path.parse? p.display = some p) ↔
      ∀ d ∈ filter.searched, d.name ∉ overridden → d.Printable) := by
  obtain ⟨_, _, hsteps⟩ := Plan.ofShapes_eq_ok_iff.mp h
  refine ⟨hsteps.imp fun d step hstep p hp => ?_,
    (forall_mem_congr hsteps fun d step hstep => (fieldStep_reads_back_iff hstep).symm).symm⟩
  rcases fieldStep_path? hstep with ⟨_, hnone⟩ | ⟨_, side, htarget, hpath⟩
  · rw [hnone] at hp
    cases hp
  · obtain rfl : side.path = p := Option.some.inj (hpath.symm.trans hp)
    have hdeclared := Target.ofField_declared htarget
    obtain ⟨crossed, hfollow, _⟩ := hdeclared.declared
    have hplain := Field.plain_iff hdeclared.path
    exact ⟨hdeclared.path, side, crossed, htarget, rfl, hfollow,
      Path.parse?_display_iff.trans hplain, (Path.resolve?_display_iff hfollow).trans hplain⟩

end Printing

namespace Ticket

/-- The worked filter prints four paths, one of them through the owner, and all are read back. -/
theorem paths_read_back_city : ∃ plan,
    Plan.ofShapes catalog model filter [] .default = .ok plan ∧
    plan.steps.map (·.condition.path?.map Path.display) =
      [some "title", some "tags", some "votes", some "owner.city"] ∧
    ∀ step ∈ plan.steps, ∀ p, step.condition.path? = some p → Path.parse? p.display = some p := by
  have hplan : ∃ plan, Plan.ofShapes catalog model filter [] .default = .ok plan := ⟨_, rfl⟩
  obtain ⟨plan, h⟩ := hplan
  have hback := (Plan.paths_read_back h).2.mpr (by decide)
  cases h
  exact ⟨_, rfl, by decide, hback⟩

/-- Tickets that also say themselves which city they belong to, by a number. -/
def numbered : Shape :=
  ⟨"Ticket", ⟨"owner.city", .number .u32, .default⟩ :: model.fields⟩

/-- Asks for the number. -/
def byNumber : Shape :=
  ⟨"TicketFilter", [⟨"owner.city", .number .u32, .default⟩]⟩

/-- A printed path need not be read back: the name with a dot in it is taken whole by the plan, and
    what the plan prints is the way to the city of the owner, which is a text. -/
theorem dotted_name_read_elsewhere :
    ¬ (∀ (catalog : Catalog) (model filter : Shape) (overridden : List String) (options : Options)
        (plan : Plan), Plan.ofShapes catalog model filter overridden options = .ok plan →
        ∀ step ∈ plan.steps, ∀ p, step.condition.path? = some p →
          Path.parse? p.display = some p) ∧
    Plan.ofShapes catalog numbered byNumber [] .default =
      .ok ⟨"Ticket", "TicketFilter", [⟨"owner.city", some (.ofType (.number .u32)),
        .compare .equal (.single "owner.city") "owner.city"⟩]⟩ ∧
    Path.resolve? catalog numbered (Path.single "owner.city").display =
      some ⟨⟨["owner", "city"]⟩, .text, true⟩ := by
  refine ⟨fun hclaim => ?_, rfl, by decide⟩
  have hback := hclaim catalog numbered byNumber [] .default _ rfl _ (.head _) _ rfl
  revert hback
  decide

end Ticket

end Sift
