import Sift.Proofs.Steps

/-!
# The settings of a model

A type can be a filter in one search and a model in another one. Its settings say how its fields
search, so they should not matter where it is searched, nor should those of the records that a path
leads through. This file follows two models that declare the same fields with whatever settings:

* `Shape.DeclaresAlike.field?_cases` -- a name is looked up in both with the same answer, which is
  all that a model is ever asked for;
* `ModelsAlike.of_nested` -- one step of a path leads from two such models to two such records;
* `ModelsAlike.follow?`, `Shape.DeclaresAlike.all`, `ModelsAlike.target` -- so both are followed,
  matched and made a target in the same way;
* `Plan.ofShapes_of_modelsAlike` -- the main statement: no search can tell the two apart.

Names may repeat on both sides.
-/

namespace Sift

/-! ## 1. The same declarations -/

/-- What a field declares, whatever its settings. -/
def Field.declaration (d : Field) : String × FieldType := (d.name, d.type)

/-- **Two shapes declare alike**: they have one name, and fields of the same names and types in the
    same order. Nothing is said of the settings. -/
structure Shape.DeclaresAlike (s s' : Shape) : Prop where
  name : s.name = s'.name
  fields : s.fields.map Field.declaration = s'.fields.map Field.declaration

instance (s s' : Shape) : Decidable (s.DeclaresAlike s') :=
  decidable_of_iff
    (s.name = s'.name ∧ s.fields.map Field.declaration = s'.fields.map Field.declaration)
    ⟨fun h => ⟨h.1, h.2⟩, fun h => ⟨h.name, h.fields⟩⟩

/-- The records that are nested in a shape, at any depth. A path leads through no others. -/
inductive Shape.Nests (catalog : Catalog) : Shape → TypeName → Prop
  | direct {s : Shape} {d : Field} {n : TypeName} (declared : d ∈ s.fields)
      (type : d.type.unwrapped = .record n) : Nests catalog s n
  | further {s : Shape} {d : Field} {n m : TypeName} (declared : d ∈ s.fields)
      (type : d.type.unwrapped = .record n) (nests : Nests catalog (catalog n) m) :
      Nests catalog s m

/-- **Two models are alike**: they declare alike, and so do the records nested in them. -/
structure ModelsAlike (catalog catalog' : Catalog) (model model' : Shape) : Prop where
  alike : model.DeclaresAlike model'
  nested : ∀ n, model.Nests catalog n → (catalog n).DeclaresAlike (catalog' n)

section Alike

variable {catalog catalog' : Catalog} {model model' : Shape}

/-- **A name is looked up with the same answer**: neither shape declares it, or both do, with the
    same type. -/
theorem Shape.DeclaresAlike.field?_cases (h : model.DeclaresAlike model') (name : String) :
    (model.field? name = none ∧ model'.field? name = none) ∨
      ∃ d d', model.field? name = some d ∧ model'.field? name = some d' ∧
        d.name = d'.name ∧ d.type = d'.type := by
  -- a lookup by name is a lookup among the declarations
  have hlookup : ∀ s : Shape, (s.field? name).map Field.declaration =
      (s.fields.map Field.declaration).find? (·.1 == name) := by
    intro s
    rw [List.find?_map]
    rfl
  have hsame : (model.field? name).map Field.declaration =
      (model'.field? name).map Field.declaration := by
    rw [hlookup, hlookup, h.fields]
  cases hd : model.field? name with
  | none =>
    rw [hd] at hsame
    exact .inl ⟨rfl, Option.map_eq_none_iff.mp hsame.symm⟩
  | some d =>
    rw [hd] at hsame
    obtain ⟨d', hd', hdeclared⟩ := Option.map_eq_some_iff.mp hsame.symm
    obtain ⟨hname, htype⟩ := Prod.mk.inj hdeclared
    exact .inr ⟨d, d', rfl, hd', hname.symm, htype.symm⟩

/-- **One step down.** The records that a field of two alike models leads to are alike. -/
theorem ModelsAlike.of_nested (h : ModelsAlike catalog catalog' model model') {d : Field}
    (hd : d ∈ model.fields) {n : TypeName} (htype : d.type.unwrapped = .record n) :
    ModelsAlike catalog catalog' (catalog n) (catalog' n) where
  alike := h.nested n (.direct hd htype)
  nested m hm := h.nested m (.further hd htype hm)

/-! ## 2. What is looked up in a model -/

/-- **A path is followed through alike models to the same end.** -/
theorem ModelsAlike.follow? (h : ModelsAlike catalog catalog' model model')
    (segments : List String) :
    Path.follow? catalog model segments = Path.follow? catalog' model' segments := by
  induction segments generalizing model model' with
  | nil => rfl
  | cons name rest ih =>
    cases rest with
    | nil =>
      rcases h.alike.field?_cases name with ⟨hd, hd'⟩ | ⟨d, d', hd, hd', _, htype⟩
      · simp only [Path.follow?, hd, hd', Option.map_none]
      · simp only [Path.follow?, hd, hd', Option.map_some, htype]
    | cons next rest =>
      rcases h.alike.field?_cases name with ⟨hd, hd'⟩ | ⟨d, d', hd, hd', _, htype⟩
      · simp only [Path.follow?, hd, hd', Option.bind_eq_bind, Option.bind_none]
      · simp only [Path.follow?, hd, hd', Option.bind_eq_bind, Option.bind_some, ← htype]
        split
        · rename_i n hn
          rw [ih (h.of_nested (Shape.field?_mem hd) hn)]
        · rfl

theorem ModelsAlike.resolve? (h : ModelsAlike catalog catalog' model model') (text : String) :
    Path.resolve? catalog model text = Path.resolve? catalog' model' text := by
  simp only [Path.resolve?, h.follow?]

theorem Shape.DeclaresAlike.ofField? (h : model.DeclaresAlike model') (d : Field) :
    FieldMatch.ofField? model d = FieldMatch.ofField? model' d := by
  unfold FieldMatch.ofField?
  rcases h.field?_cases d.name with ⟨ht, ht'⟩ | ⟨t, t', ht, ht', hname, htype⟩
  · rw [ht, ht']
  · rw [ht, ht', Option.bind_eq_bind, Option.bind_some, Option.bind_eq_bind, Option.bind_some,
      hname, htype]

/-- **A filter has the same matches with both.** -/
theorem Shape.DeclaresAlike.all (h : model.DeclaresAlike model') (filter : Shape) :
    FieldMatch.all filter model = FieldMatch.all filter model' := by
  unfold FieldMatch.all
  rw [funext h.ofField?]

/-! ## 3. Targets and plans -/

variable (filter : Shape) (overridden : List String) (options : Options)

theorem ModelsAlike.atPath (h : ModelsAlike catalog catalog' model model') (d : Field)
    (path : String) :
    Target.atPath catalog filter model d path = Target.atPath catalog' filter model' d path := by
  simp only [Target.atPath, h.resolve?, h.alike.name]

theorem Shape.DeclaresAlike.ofNullCheck? (h : model.DeclaresAlike model') (d : Field) :
    Target.ofNullCheck? model d = Target.ofNullCheck? model' d := by
  unfold Target.ofNullCheck?
  rcases h.field?_cases d.name with ⟨ht, ht'⟩ | ⟨t, t', ht, ht', hname, htype⟩
  · rw [ht, ht']
  · rw [ht, ht', Option.map_some, Option.map_some, hname, htype]

/-- **A field has the same target in both**, or the same error. -/
theorem ModelsAlike.target (h : ModelsAlike catalog catalog' model model') (ms : List FieldMatch)
    (d : Field) :
    Target.ofField catalog filter model overridden ms d =
      Target.ofField catalog' filter model' overridden ms d := by
  simp only [Target.ofField, h.atPath, h.alike.ofNullCheck?, h.alike.name]

theorem ModelsAlike.criteria (h : ModelsAlike catalog catalog' model model') :
    Criterion.ofShapes catalog filter model overridden options =
      Criterion.ofShapes catalog' filter model' overridden options := by
  simp only [Criterion.ofShapes, h.alike.all, h.target]

theorem ModelsAlike.plan (h : ModelsAlike catalog catalog' model model') :
    Plan.ofShapes catalog model filter overridden options =
      Plan.ofShapes catalog' model' filter overridden options := by
  simp only [Plan.ofShapes, h.criteria, h.alike.name]

/-- **The settings of a model are inert.** Take two models that are alike, whatever their settings
    and those of the records nested in them. Then every filter has the same matches with both, every
    text leads to the same field or to none, and for any overridden fields and options the criteria
    and the plan are the same, or the same error. So is what a filter compiles to, whatever
    predicates are registered. -/
theorem Plan.ofShapes_of_modelsAlike (h : ModelsAlike catalog catalog' model model') :
    (∀ filter, FieldMatch.all filter model = FieldMatch.all filter model') ∧
    (∀ text, Path.resolve? catalog model text = Path.resolve? catalog' model' text) ∧
    (∀ filter overridden options,
      Criterion.ofShapes catalog filter model overridden options =
        Criterion.ofShapes catalog' filter model' overridden options) ∧
    (∀ filter overridden options,
      ofShapes catalog model filter overridden options =
        ofShapes catalog' model' filter overridden options) ∧
    ∀ filter o options,
      Specification.compile catalog model filter o options =
        Specification.compile catalog' model' filter o options := by
  refine ⟨h.alike.all, h.resolve?, h.criteria, h.plan, ?compiled⟩
  case compiled =>
    intro filter o options
    unfold Specification.compile
    rw [h.plan]

end Alike

namespace Ticket

/-- Tickets as they would be if tickets were searched by tickets: the title is no criterion, the tags
    lead elsewhere, the votes are looked at even when there are none, and owners are told apart. -/
def searching : Shape :=
  ⟨"Ticket",
    [⟨"title", .text, ⟨.auto, false, none, true, none⟩⟩,
      ⟨"tags", .list .text, ⟨.isIn, true, some "title", false, none⟩⟩,
      ⟨"votes", .number .u32, ⟨.lessThan, false, none, false, some false⟩⟩,
      ⟨"owner", .optional (.record ⟨"Person"⟩), ⟨.notEqual, false, none, false, none⟩⟩]⟩

/-- The city of a person is no criterion and leads nowhere. -/
def searchingPerson : Shape :=
  ⟨"Person", [⟨"city", .text, ⟨.isNull, true, some "town.name", true, some true⟩⟩]⟩

/-- The shapes of tickets and people with these settings. -/
def searchingCatalog : Catalog := fun n =>
  if n = ⟨"Ticket"⟩ then searching else if n = ⟨"Person"⟩ then searchingPerson else catalog n

/-- The worked filter has the same plan over tickets that are themselves a filter, and there is
    one. -/
theorem ofShapes_of_modelsAlike_searching :
    ModelsAlike catalog searchingCatalog model searching ∧ model ≠ searching ∧
    ∃ plan, Plan.ofShapes catalog model filter [] .default = .ok plan ∧
      Plan.ofShapes searchingCatalog searching filter [] .default = .ok plan := by
  have hmodel : model.DeclaresAlike searching := by decide
  have hnested : ∀ n, (catalog n).DeclaresAlike (searchingCatalog n) := by
    intro n
    unfold searchingCatalog
    split
    · rename_i hn
      subst hn
      exact hmodel
    · split
      · rename_i hn
        subst hn
        decide
      · exact ⟨rfl, rfl⟩
  have halike : ModelsAlike catalog searchingCatalog model searching :=
    ⟨hmodel, fun n _ => hnested n⟩
  obtain ⟨plan, hplan⟩ : ∃ plan, Plan.ofShapes catalog model filter [] .default = .ok plan :=
    ⟨_, rfl⟩
  obtain ⟨-, -, -, hplanned, -⟩ := Plan.ofShapes_of_modelsAlike halike
  refine ⟨halike, by decide, plan, hplan, ?_⟩
  rw [← hplanned]
  exact hplan

end Ticket

end Sift
