import Sift.Proofs.Walks

/-!
# Fields of one name

Matches are collected in one pass over a filter and looked up by name in another. The names of a
filter written by hand may repeat, and then the match that is found need not be the field's own: it
is that of the first searched field of the name that declares no path and fits. The model field is
the same one for all of them, so what a criterion reads and the type it finds there are right; only
the fit it carries can be another field's.

* `Field.FitsUnder` -- a field is matched under a name, and how it fits;
* `FieldMatch.find?_all_eq_some_iff` -- the match found under a name is made by the first of these;
* `Field.Overshadowed` -- a field for which that is another fit than its own;
* `Criterion.own_match_iff` -- these fields, and no others, have criteria that carry another fit.
-/

namespace Sift

section FirstOf

variable {α β γ : Type}

/-- What is said in other words is first said of the same element. -/
theorem firstOf_image_iff {P : α → γ → Prop} {g : γ → β} {xs : List α} {y : β} :
    FirstOf (fun x y => ∃ z, P x z ∧ y = g z) xs y ↔ ∃ z, FirstOf P xs z ∧ y = g z := by
  constructor
  · rintro ⟨before, x, after, hxs, hbefore, z, hz, rfl⟩
    exact ⟨z, ⟨before, x, after, hxs, fun w hw z' hz' => hbefore w hw _ ⟨z', hz', rfl⟩, hz⟩, rfl⟩
  · rintro ⟨z, ⟨before, x, after, hxs, hbefore, hz⟩, rfl⟩
    exact ⟨before, x, after, hxs, fun w hw _ ⟨z', hz', _⟩ => hbefore w hw z' hz', z, hz, rfl⟩

/-- The first result that passes is the first that is said of an element. -/
theorem find?_filterMap_eq_some_iff {f : α → Option β} {q : β → Bool} {xs : List α} {y : β} :
    (xs.filterMap f).find? q = some y ↔ FirstOf (fun x y => f x = some y ∧ q y = true) xs y := by
  have hnone : ∀ x, (!(f x).any q) = true ↔ ∀ z, ¬ (f x = some z ∧ q z = true) := by
    intro x
    cases f x <;> simp
  rw [List.find?_filterMap, Option.bind_eq_some_iff]
  simp only [List.find?_eq_some_iff_append, hnone]
  constructor
  · rintro ⟨x, ⟨hq, before, after, hxs, hbefore⟩, hy⟩
    rw [hy, Option.any_some] at hq
    exact ⟨before, x, after, hxs, hbefore, hy, hq⟩
  · rintro ⟨before, x, after, hxs, hbefore, hy, hq⟩
    exact ⟨x, ⟨by rwa [hy, Option.any_some], before, after, hxs, hbefore⟩, hy⟩

end FirstOf

/-! ## 1. The match found under a name -/

/-- A field is matched under a name against a type: it has the name, declares no path, and fits. -/
def Field.FitsUnder (name : String) (t : FieldType) (d : Field) (fit : Fit) : Prop :=
  d.name = name ∧ d.settings.path = none ∧ Fit.ofTypes? d.type t = some fit

/-- A field is overshadowed when it is matched by name and the first field that is matched under the
    name fits otherwise. -/
def Field.Overshadowed (filter : Shape) (t : FieldType) (d : Field) : Prop :=
  d.settings.path = none ∧ ∃ fit, FirstOf (Field.FitsUnder d.name t) filter.searched fit ∧
    Fit.ofTypes? d.type t ≠ some fit

/-- A criterion that reads the model carries the fit of its own type with the type it reads. -/
def Criterion.CarriesOwnMatch (c : Criterion) : Prop :=
  ∀ side, c.target = .model side → side.fit = Fit.ofTypes? c.filterType side.type

section Namesakes

variable {catalog : Catalog} {model filter : Shape} {overridden : List String} {options : Options}
  {d target : Field} {name : String}

/-- The match that is made for a field under its name. -/
theorem FieldMatch.ofField?_named_iff {m : FieldMatch} (htarget : model.field? name = some target) :
    FieldMatch.ofField? model d = some m ∧ m.field = name ↔
      ∃ fit, (d.name = name ∧ Fit.ofTypes? d.type target.type = some fit) ∧
        m = ⟨name, .single target.name, target.type, fit⟩ := by
  constructor
  · rintro ⟨hmatch, rfl⟩
    obtain ⟨target', fit, htarget', hfit, rfl⟩ := FieldMatch.ofField?_eq_some hmatch
    have hsame : some target' = some target := htarget'.symm.trans htarget
    cases hsame
    exact ⟨fit, ⟨rfl, hfit⟩, rfl⟩
  · rintro ⟨fit, ⟨rfl, hfit⟩, rfl⟩
    exact ⟨by simp [FieldMatch.ofField?, htarget, hfit], rfl⟩

/-- Matches are made for the searched fields that declare no path. -/
theorem FieldMatch.all_eq :
    FieldMatch.all filter model =
      (filter.searched.filter (·.settings.path.isNone)).filterMap (FieldMatch.ofField? model) := by
  unfold FieldMatch.all Shape.searched
  rw [List.filter_filter]
  simp only [Bool.and_comm]

/-- **The match found under a name is made by the first field that is matched under it.** -/
theorem FieldMatch.find?_all_eq_some_iff {m : FieldMatch}
    (htarget : model.field? name = some target) :
    FieldMatch.find? (FieldMatch.all filter model) name = some m ↔
      ∃ fit, FirstOf (Field.FitsUnder name target.type) filter.searched fit ∧
        m = ⟨name, .single target.name, target.type, fit⟩ := by
  rw [FieldMatch.find?, FieldMatch.all_eq, List.filterMap_filter, find?_filterMap_eq_some_iff,
    ← firstOf_image_iff (g := fun fit => (⟨name, .single target.name, target.type, fit⟩ : FieldMatch))]
  refine firstOf_congr (List.forall₂_same.mpr fun e _ m => ?_)
  simp only [Field.FitsUnder, Option.ite_none_right_eq_some, Option.isNone_iff_eq_none, and_assoc,
    beq_iff_eq, FieldMatch.ofField?_named_iff htarget]
  constructor
  · rintro ⟨hpath, fit, hname, hfit, hm⟩
    exact ⟨fit, hname, hpath, hfit, hm⟩
  · rintro ⟨fit, hname, hpath, hfit, hm⟩
    exact ⟨hpath, fit, hname, hfit, hm⟩

/-! ## 2. The fit of a criterion -/

/-- Where no match is found under a name, none of its fields is matched. -/
theorem FieldMatch.not_firstOf_of_find?_eq_none {fit : Fit}
    (htarget : model.field? name = some target)
    (h : FieldMatch.find? (FieldMatch.all filter model) name = none) :
    ¬ FirstOf (Field.FitsUnder name target.type) filter.searched fit := by
  intro hfirst
  rw [(FieldMatch.find?_all_eq_some_iff htarget).mpr ⟨fit, hfirst, rfl⟩] at h
  cases h

/-- A searched field that declares no path and fits is matched under its name, so some field is the
    first. -/
theorem Field.exists_firstOf {t : FieldType} {fit : Fit} (hd : d ∈ filter.searched)
    (hpath : d.settings.path = none) (hfit : Fit.ofTypes? d.type t = some fit) :
    ∃ first, FirstOf (Field.FitsUnder d.name t) filter.searched first :=
  exists_firstOf_iff.mpr ⟨d, hd, fit, rfl, hpath, hfit⟩

/-- **The fit that a model side carries.** It is the field's own where a path is declared, and
    elsewhere that of the first field that is matched under the name. -/
theorem Target.fit_of_ofField {side : ModelSide} (hd : d ∈ filter.searched)
    (h : Target.ofField catalog filter model overridden (FieldMatch.all filter model) d =
      .ok (.model side)) :
    (d.settings.path ≠ none → side.fit = Fit.ofTypes? d.type side.type) ∧
    (d.settings.path = none → ∀ fit,
      side.fit = some fit ↔ FirstOf (Field.FitsUnder d.name side.type) filter.searched fit) := by
  rcases ofField_cases h with ⟨_, heq⟩ | ⟨_, ⟨text, htext, heq⟩ | ⟨hpath,
    ⟨m, hfound, heq⟩ | ⟨hunmatched, ⟨_, target, htarget, heq⟩ | ⟨_, heq⟩⟩⟩⟩
  · cases heq
  · obtain ⟨_, hside, hr⟩ := atPath_ok htext heq.symm
    cases hside
    refine ⟨fun _ => hr.fit, fun hnone => ?_⟩
    rw [htext] at hnone
    cases hnone
  · -- the match found under the name is the one the first field makes
    obtain ⟨target, found, htarget, rfl⟩ := FieldMatch.find?_all_target hfound
    cases heq
    refine ⟨absurd hpath, fun _ fit => ?_⟩
    have hiff : FieldMatch.find? (FieldMatch.all filter model) d.name =
        some ⟨d.name, .single target.name, target.type, fit⟩ ↔ _ :=
      FieldMatch.find?_all_eq_some_iff htarget
    rw [hfound] at hiff
    simpa using hiff
  · -- a null check finds no match, so its own type does not fit either
    cases heq
    refine ⟨absurd hpath, fun _ fit => iff_of_false (fun hfit => ?_)
      (FieldMatch.not_firstOf_of_find?_eq_none htarget hunmatched)⟩
    obtain ⟨first, hfirst⟩ := Field.exists_firstOf hd hpath hfit
    exact FieldMatch.not_firstOf_of_find?_eq_none htarget hunmatched hfirst
  · cases heq

/-- **A model side carries its field's own fit exactly if the field is not overshadowed.** -/
theorem Target.fit_eq_iff {side : ModelSide} (hd : d ∈ filter.searched)
    (h : Target.ofField catalog filter model overridden (FieldMatch.all filter model) d =
      .ok (.model side)) :
    side.fit = Fit.ofTypes? d.type side.type ↔ ¬ d.Overshadowed filter side.type := by
  obtain ⟨hdeclared, hnamed⟩ := Target.fit_of_ofField hd h
  constructor
  · rintro hown ⟨hpath, fit, hfirst, hother⟩
    exact hother (hown ▸ (hnamed hpath fit).mpr hfirst)
  · intro hclear
    cases hpath : d.settings.path with
    | some text => exact hdeclared (by simp [hpath])
    | none =>
      cases hfit : side.fit with
      | none =>
        cases hown : Fit.ofTypes? d.type side.type with
        | none => rfl
        | some own =>
          obtain ⟨first, hfirst⟩ := Field.exists_firstOf hd hpath hown
          rw [(hnamed hpath first).mpr hfirst] at hfit
          cases hfit
      | some fit =>
        by_contra hother
        exact hclear ⟨hpath, fit, (hnamed hpath fit).mp hfit, fun hown => hother hown.symm⟩

/-- Under distinct names no field is overshadowed. -/
theorem Field.not_overshadowed (hn : filter.DistinctNames) (hd : d ∈ filter.searched)
    (t : FieldType) : ¬ d.Overshadowed filter t := by
  rintro ⟨_, fit, hfirst, hother⟩
  obtain ⟨e, he, hname, _, hfit⟩ := hfirst.exists_mem
  rw [hn.eq_of_name (Shape.mem_searched.mp he).1 (Shape.mem_searched.mp hd).1 hname] at hfit
  exact hother hfit

/-! ## 3. The criteria of a filter -/

/-- The criterion of a field carries its own match exactly if a predicate is asked or the field is
    not overshadowed. -/
theorem Criterion.carriesOwnMatch_iff {t : Target} (hd : d ∈ filter.searched)
    (h : Target.ofField catalog filter model overridden (FieldMatch.all filter model) d = .ok t) :
    (ofTarget options d t).CarriesOwnMatch ↔
      (d.name ∉ overridden → ∀ target, model.field? d.name = some target →
        ¬ d.Overshadowed filter target.type) := by
  cases t with
  | override =>
    refine iff_of_true (fun side hside => ?_) fun hover => absurd (Target.mem_of_ofField h) hover
    cases hside
  | model side =>
    have hown : (ofTarget options d (.model side)).CarriesOwnMatch ↔
        ¬ d.Overshadowed filter side.type := by
      rw [← Target.fit_eq_iff hd h]
      constructor
      · exact fun hcarries => hcarries side rfl
      · rintro hfit side' hside
        cases hside
        exact hfit
    rw [hown]
    constructor
    · rintro hclear _ target htarget ⟨hpath, hother⟩
      obtain ⟨target', htarget', htype⟩ := (Target.ofField_declared h).named hpath
      rw [htarget] at htarget'
      cases htarget'
      exact hclear ⟨hpath, htype ▸ hother⟩
    · rintro hclear ⟨hpath, hother⟩
      have hover := Target.not_mem_of_ofField h
      obtain ⟨target, htarget, htype⟩ := (Target.ofField_declared h).named hpath
      exact hclear hover target htarget ⟨hpath, htype ▸ hother⟩

/-- **A criterion carries the match of its own field, unless the field is overshadowed.** Each
    searched field has a criterion. If it reads the model, then at the path the field searches at,
    and the type it says it finds there is the one declared there. The fit it carries is that of its
    own type with this type if the field declares a path; if not, it is that of the first field that
    is matched under the name, and so its own exactly if the field is not overshadowed. All criteria
    carry their own match when no field that is searched by name is overshadowed, which holds
    wherever names do not repeat. -/
theorem Criterion.own_match_iff {criteria : List Criterion}
    (h : ofShapes catalog filter model overridden options = .ok criteria) :
    List.Forall₂ (fun d c => c.field = d.name ∧ c.filterType = d.type ∧
        ∀ side, c.target = .model side →
          d.modelPath? = some side.path ∧
          (∃ crossed, Path.follow? catalog model side.path.segments = some (side.type, crossed)) ∧
          (d.settings.path = none → ∀ fit, side.fit = some fit ↔
            FirstOf (Field.FitsUnder d.name side.type) filter.searched fit) ∧
          (side.fit = Fit.ofTypes? c.filterType side.type ↔ ¬ d.Overshadowed filter side.type))
      filter.searched criteria ∧
    ((∀ c ∈ criteria, c.CarriesOwnMatch) ↔
      ∀ d ∈ filter.searched, d.name ∉ overridden → ∀ target, model.field? d.name = some target →
        ¬ d.Overshadowed filter target.type) ∧
    (filter.DistinctNames → ∀ c ∈ criteria, c.CarriesOwnMatch) := by
  have hmade := (List.forall₂_and_left filter.searched criteria).mpr
    ⟨fun _ hd => hd, ofShapes_eq_ok_iff.mp h⟩
  have hall : (∀ c ∈ criteria, c.CarriesOwnMatch) ↔
      ∀ d ∈ filter.searched, d.name ∉ overridden → ∀ target, model.field? d.name = some target →
        ¬ d.Overshadowed filter target.type := by
    refine (forall_mem_congr hmade ?_).symm
    rintro d _ ⟨hd, t, ht, rfl⟩
    exact (carriesOwnMatch_iff hd ht).symm
  refine ⟨hmade.imp ?_, hall, fun hn => hall.mpr fun d hd _ target _ =>
    Field.not_overshadowed hn hd target.type⟩
  rintro d _ ⟨hd, t, ht, rfl⟩
  refine ⟨rfl, rfl, fun side hside => ?_⟩
  cases hside
  have hdeclared := Target.ofField_declared ht
  exact ⟨hdeclared.path, hdeclared.declared.imp fun _ hfollow => hfollow.1,
    (Target.fit_of_ofField hd ht).2, Target.fit_eq_iff hd ht⟩

end Namesakes

namespace Ticket

/-- Asks for the votes twice, once for any of several numbers and once for a single one. -/
def votesTwice : Shape :=
  ⟨"VotesFilter",
    [⟨"votes", .list (.number .u32), .default⟩, ⟨"votes", .number .u32, .default⟩]⟩

/-- The criterion of the single number carries the fit of the several ones. -/
def votesCriterion : Criterion :=
  ⟨"votes", .number .u32, .auto, false, true,
    .model ⟨.single "votes", .number .u32, some (.anyOf false), false⟩⟩

/-- The worked filter has two fields that are searched by name, and each criterion carries its own
    match. In the filter that asks for the votes twice the single number is overshadowed. -/
theorem own_match_iff_votes :
    (filter.DistinctNames ∧ ∃ criteria,
      Criterion.ofShapes catalog filter model [] .default = .ok criteria ∧
      criteria.map (·.field) = ["title", "tag", "least", "city"] ∧
      ∀ c ∈ criteria, c.CarriesOwnMatch) ∧
    ∃ criteria, Criterion.ofShapes catalog votesTwice model [] .default = .ok criteria ∧
      votesCriterion ∈ criteria ∧
      ¬ ∀ d ∈ votesTwice.searched, d.name ∉ [] → ∀ target, model.field? d.name = some target →
        ¬ d.Overshadowed votesTwice target.type := by
  have hn : filter.DistinctNames := by decide
  have hcriteria : ∃ criteria,
      Criterion.ofShapes catalog filter model [] .default = .ok criteria := ⟨_, rfl⟩
  have htwice : ∃ criteria, Criterion.ofShapes catalog votesTwice model [] .default = .ok criteria ∧
      votesCriterion ∈ criteria := ⟨_, rfl, .tail _ (.head _)⟩
  refine ⟨⟨hn, ?_⟩, ?_⟩
  · obtain ⟨criteria, h⟩ := hcriteria
    obtain ⟨_, _, hown⟩ := Criterion.own_match_iff h
    cases h
    exact ⟨_, rfl, rfl, hown hn⟩
  · obtain ⟨criteria, h, hmem⟩ := htwice
    refine ⟨criteria, h, hmem, fun hclear => ?_⟩
    have hfit := (Criterion.own_match_iff h).2.1.mpr hclear _ hmem _ rfl
    cases hfit

/-- A criterion need not carry the match of its own field: the single number is carried as a list of
    what the model holds. -/
theorem votes_under_another_match :
    ¬ ∀ (catalog : Catalog) (model filter : Shape) (overridden : List String) (options : Options)
      (criteria : List Criterion),
      Criterion.ofShapes catalog filter model overridden options = .ok criteria →
      ∀ c ∈ criteria, ∀ side, c.target = .model side →
        side.fit = Fit.ofTypes? c.filterType side.type := by
  intro hclaim
  have hfit := hclaim catalog model votesTwice [] .default _ rfl votesCriterion (.tail _ (.head _)) _
    rfl
  cases hfit

end Ticket

end Sift
