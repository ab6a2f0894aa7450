import Sift.Proofs.Compilation
import Sift.Proofs.Soundness

/-!
# Where a path leads

A path is resolved against shapes before there is any record, and followed through records at run
time. The first walk takes one `optional` away from each type it crosses and remembers that it did;
the second one sees values only. This file says that the two belong together:

* `Record.LeadsTo` -- the record at the end of a way through records;
* `Crosses` -- the fields crossed on the way, with what they hold, as far as there are records;
* `Record.Conforms.crossed` -- one step: a field that is declared with a record type holds a record
  of it, or nothing if the type is optional. Both walks are followed by induction with it;
* `Target.ofField_declared` -- what a target reads is declared there, repeated names or not;
* `Specification.compile_rejects` -- an operator that is rejected belongs to a field that reads the
  model, so a rejected null check is one of a value that is always there;
* `Path.access_of_resolved` -- resolution is sound for access.
-/

namespace Sift

/-! ## 1. Ways through records -/

/-- The record at the end of a way: each name but the last leads on to the record held under it. -/
inductive Record.LeadsTo : Record → List String → Record → Prop
  | here (r : Record) : r.LeadsTo [] r
  | through {r next owner : Record} {name : String} {rest : List String}
      (held : r.get name = .record next) (leads : next.LeadsTo rest owner) :
      r.LeadsTo (name :: rest) owner

/-- On the way through names the field `d` is crossed, and holds `v`. The way is followed as far as
    there are records, each of the shape declared for it. -/
inductive Crosses (catalog : Catalog) : Shape → Record → List String → Field → Value → Prop
  | here {shape : Shape} {r : Record} {name : String} {rest : List String} {d : Field}
      (declared : shape.field? name = some d) :
      Crosses catalog shape r (name :: rest) d (r.get name)
  | further {shape : Shape} {r next : Record} {name : String} {rest : List String} {e d : Field}
      {n : TypeName} {v : Value} (declared : shape.field? name = some e)
      (type : e.type.unwrapped = .record n) (held : r.get name = .record next)
      (crosses : Crosses catalog (catalog n) next rest d v) :
      Crosses catalog shape r (name :: rest) d v

/-- At the end of a way through records the last name is looked up in the last record. -/
theorem Record.LeadsTo.access_eq {r owner : Record} {parents : List String}
    (h : r.LeadsTo parents owner) (last : String) :
    Path.access ⟨parents ++ [last]⟩ r = owner.get last := by
  induction h with
  | here r => rfl
  | through held _ ih => exact (Path.access_cons held (by simp)).trans ih

section Walks

variable {catalog : Catalog}

/-- Where something on the way holds nothing, the value at the end of the way is absent. -/
theorem Crosses.access_eq_absent {shape : Shape} {r : Record} {parents : List String} {d : Field}
    {v : Value} (h : Crosses catalog shape r parents d v) (hv : v = .absent) (last : String) :
    Path.access ⟨parents ++ [last]⟩ r = .absent := by
  induction h with
  | here _ => exact Path.access_cons_absent hv
  | further _ _ held _ ih => exact (Path.access_cons held (by simp)).trans (ih hv)

/-! ## 2. The two walks -/

/-- **A way through conforming records goes through**, if every optional record on it is set. -/
theorem Record.Conforms.leadsTo {shape : Shape} {r : Record} {parents : List String}
    {last : String} {t : FieldType} {crossed : Bool} (hr : r.Conforms catalog shape)
    (h : Path.follow? catalog shape (parents ++ [last]) = some (t, crossed))
    (hset : ∀ d v, Crosses catalog shape r parents d v → d.type.isOptional = true → v ≠ .absent) :
    ∃ owner, r.LeadsTo parents owner := by
  induction parents generalizing shape r crossed with
  | nil => exact ⟨r, .here r⟩
  | cons name rest ih =>
    obtain ⟨d, n, inner, hd, htype, hinner, _⟩ := Path.follow?_cons_eq_some (by simp) h
    rcases hr.crossed hd htype with ⟨hoptional, habsent⟩ | ⟨next, hheld, hnext⟩
    · exact absurd habsent (hset d _ (.here hd) hoptional)
    · obtain ⟨owner, hleads⟩ := ih hnext hinner fun e v hcrosses =>
        hset e v (.further hd htype hheld hcrosses)
      exact ⟨owner, .through hheld hleads⟩

/-- A value of a type that is not optional is there. -/
theorem Value.Conforms.ne_absent {t : FieldType} {v : Value} (h : v.Conforms catalog t)
    (ht : t.isOptional = false) : v ≠ .absent := by
  rintro rfl
  cases h with
  | unset t => cases ht
  | set _ => cases ht

end Walks

/-! ## 3. Null checks -/

section Targets

variable {catalog : Catalog} {model filter : Shape} {overridden : List String} {options : Options}
  {o : Overrides} {d : Field}

/-- **What a target reads is declared there.** The match found for a name may be that of another
    field of the name, but it is made with the model field of that name all the same. -/
theorem Target.ofField_declared {side : ModelSide}
    (h : Target.ofField catalog filter model overridden (FieldMatch.all filter model) d =
      .ok (.model side)) : side.Declared catalog model d := by
  rcases ofField_cases h with ⟨_, heq⟩ | ⟨_, ⟨text, htext, heq⟩ | ⟨hpath,
    ⟨m, hfound, heq⟩ | ⟨_, ⟨_, target, htarget, heq⟩ | ⟨_, heq⟩⟩⟩⟩
  · cases heq
  · obtain ⟨_, hside, hr⟩ := atPath_ok htext heq.symm
    cases hside
    exact ⟨hr.path, hr.declared⟩
  · obtain ⟨target, fit, htarget, rfl⟩ := FieldMatch.find?_all_target hfound
    cases heq
    exact ModelSide.declared_single hpath htarget
  · cases heq
    exact ModelSide.declared_single hpath htarget
  · cases heq

/-- A target is never refused for an operator. -/
theorem Target.ofField_ne_invalidOperator {op : Operator} {name field : String} {t u : FieldType} :
    Target.ofField catalog filter model overridden (FieldMatch.all filter model) d ≠
      .error (.invalidOperator op name field t u) := by
  intro h
  rcases ofField_cases h with ⟨_, heq⟩ | ⟨_, ⟨text, _, heq⟩ | ⟨_,
    ⟨_, _, heq⟩ | ⟨_, ⟨_, _, _, heq⟩ | ⟨_, heq⟩⟩⟩⟩
  · cases heq
  · unfold atPath at heq
    split at heq
    · cases heq
    · simp only at heq
      split at heq <;> cases heq
  · cases heq
  · cases heq
  · cases heq

/-- **An operator that is rejected belongs to a field that reads the model**, and makes no
    condition there. -/
theorem Specification.compile_rejects {op : Operator} {name field : String} {t u : FieldType}
    (h : compile catalog model filter o options = .error (.invalidOperator op name field t u)) :
    ∃ d ∈ filter.searched, d.name = field ∧ ∃ side : ModelSide, side.Declared catalog model d ∧
      side.condition? options.like d.name d.type op = none := by
  rcases Plan.ofShapes_eq_error_iff_fieldStep.mp (compile_eq_error_iff.mp h) with h | ⟨_, h⟩
  · -- the first pass looks at no operator
    obtain ⟨d, _, h⟩ := h.exists_mem
    exact absurd h Target.ofField_ne_invalidOperator
  · obtain ⟨d, hd, h⟩ := h.exists_mem
    rcases fieldStep_eq_error_iff_ofField.mp h with h | ⟨side, htarget, hnone, heq⟩
    · exact absurd h Target.ofField_ne_invalidOperator
    · cases heq
      exact ⟨d, hd, rfl, side, Target.ofField_declared htarget, hnone⟩

/-- A null check makes no condition where the value is always there. -/
theorem ModelSide.not_nullable_of_condition?_eq_none {side : ModelSide} {like : LikeMode}
    {field : String} {filterType : FieldType} {op : Operator} (hop : op.isNullCheck = true)
    (h : side.condition? like field filterType op = none) : side.nullable = false := by
  cases op with
  | isNull | isNotNull =>
    cases hnull : side.nullable with
    | false => rfl
    | true => simp [condition?, hnull] at h
  | _ => cases hop

end Targets

/-! ## 4. Resolution and access -/

section Resolution

variable {catalog : Catalog} {model : Shape} {text : String} {res : Path.Resolved} {r : Record}

/-- What a path leads to is there, if neither an optional record is crossed nor the type at the end
    is optional. -/
theorem Record.Conforms.access_ne_absent {segments : List String} {t : FieldType}
    {crossed : Bool} (hr : r.Conforms catalog model)
    (h : Path.follow? catalog model segments = some (t, crossed)) (hcrossed : crossed = false)
    (ht : t.isOptional = false) : Path.access ⟨segments⟩ r ≠ .absent := by
  rcases hr.access h with hvalue | ⟨habsent, _⟩
  · exact hvalue.ne_absent ht
  · rw [hcrossed] at habsent
    cases habsent

/-- **A null check that is rejected could never have held.** -/
theorem Specification.rejected_nullCheck {filter : Shape} {o : Overrides} {options : Options}
    {op : Operator} {name field : String} {t u : FieldType} (hop : op.isNullCheck = true)
    (h : compile catalog model filter o options = .error (.invalidOperator op name field t u)) :
    ∃ d ∈ filter.searched, d.name = field ∧ ∃ path, d.modelPath? = some path ∧
      ∀ r : Record, r.Conforms catalog model →
        ∀ o' f, (Condition.isNull path).eval o' r f = false := by
  obtain ⟨d, hd, hfield, side, ⟨hpath, crossed, hfollow, hnull⟩, hcondition⟩ := compile_rejects h
  refine ⟨d, hd, hfield, side.path, hpath, fun r hr o' f => ?_⟩
  rw [ModelSide.not_nullable_of_condition?_eq_none hop hcondition, eq_comm,
    Bool.or_eq_false_iff] at hnull
  have hthere := hr.access_ne_absent hfollow hnull.1 hnull.2
  show (side.path.access r).isAbsent = false
  cases hvalue : side.path.access r with
  | absent => exact absurd hvalue hthere
  | _ => rfl

/-- **Path resolution is sound for path access.** A record that holds what its shape declares has a
    value of the resolved type at the end of the path, or none if an optional record is crossed. If
    neither a record on the way nor the type is optional, it has one. If every optional record on
    the way is set, the value is the last record's own; if something on the way is not set, it is
    absent. So a null check that is rejected could never have held. -/
theorem Path.access_of_resolved (h : resolve? catalog model text = some res)
    (hr : r.Conforms catalog model) :
    (Value.Conforms catalog res.type (res.path.access r) ∨
      (res.throughOptional = true ∧ res.path.access r = .absent)) ∧
    (res.throughOptional = false → res.type.isOptional = false → res.path.access r ≠ .absent) ∧
    (∃ parents last, res.path.segments = parents ++ [last] ∧
      ((∀ d v, Crosses catalog model r parents d v → d.type.isOptional = true → v ≠ .absent) →
        ∃ owner, r.LeadsTo parents owner ∧ res.path.access r = owner.get last) ∧
      ((∃ d, Crosses catalog model r parents d .absent) → res.path.access r = .absent)) ∧
    ∀ (filter : Shape) (o : Overrides) (options : Options) (op : Operator) (name field : String)
      (t u : FieldType), op.isNullCheck = true →
      Specification.compile catalog model filter o options =
        .error (.invalidOperator op name field t u) →
      ∃ d ∈ filter.searched, d.name = field ∧ ∃ path, d.modelPath? = some path ∧
        ∀ o' f, (Condition.isNull path).eval o' r f = false := by
  obtain ⟨_, hfollow⟩ := resolve?_eq_some h
  have hne : res.path.segments ≠ [] := by
    intro hnil
    rw [hnil] at hfollow
    cases hfollow
  have hsplit := List.dropLast_append_getLast hne
  refine ⟨hr.access hfollow, hr.access_ne_absent hfollow,
    ⟨_, _, hsplit.symm, fun hset => ?_, ?_⟩, ?_⟩
  · rw [← hsplit] at hfollow
    obtain ⟨owner, hleads⟩ := hr.leadsTo hfollow hset
    have haccess := hleads.access_eq (res.path.segments.getLast hne)
    rw [hsplit] at haccess
    exact ⟨owner, hleads, haccess⟩
  · rintro ⟨d, hcrosses⟩
    have haccess := hcrosses.access_eq_absent rfl (res.path.segments.getLast hne)
    rw [hsplit] at haccess
    exact haccess
  · intro filter o options op name field t u hop hrejected
    obtain ⟨d, hd, hfield, path, hpath, hnever⟩ := Specification.rejected_nullCheck hop hrejected
    exact ⟨d, hd, hfield, path, hpath, hnever r hr⟩

end Resolution

namespace Ticket

/-- Asks whether the title is missing, which it cannot be. -/
def untitled : Shape :=
  ⟨"UntitledFilter", [⟨"title", .text, ⟨.isNull, false, none, false, none⟩⟩]⟩

/-- The way to the city leads through the owner of the ticket and ends at a text. The filter that
    asks whether the title is missing is rejected, and its condition would not hold. -/
theorem access_of_resolved_city :
    Path.resolve? catalog model "owner.city" = some ⟨⟨["owner", "city"]⟩, .text, true⟩ ∧
    lost.Conforms catalog model ∧ (Path.access ⟨["owner", "city"]⟩ lost).Conforms catalog .text ∧
    (∃ parents last, ["owner", "city"] = parents ++ [last] ∧ ∃ owner,
      lost.LeadsTo parents owner ∧ Path.access ⟨["owner", "city"]⟩ lost = owner.get last) ∧
    Specification.compile catalog model untitled .empty .default =
      .error (.invalidOperator .isNull "UntitledFilter" "title" .text .text) ∧
    ∃ d ∈ untitled.searched, ∃ path, d.modelPath? = some path ∧
      (Condition.isNull path).eval .empty lost search = false := by
  have hresolved : Path.resolve? catalog model "owner.city" =
      some ⟨⟨["owner", "city"]⟩, .text, true⟩ := by rfl
  have hrejected : Specification.compile catalog model untitled .empty .default =
      .error (.invalidOperator .isNull "UntitledFilter" "title" .text .text) := rfl
  obtain ⟨hvalue, _, ⟨parents, last, hsegments, hset, _⟩, hnever⟩ :=
    Path.access_of_resolved hresolved lost_conforms
  obtain ⟨d, hd, _, path, hpath, heval⟩ :=
    hnever untitled .empty .default .isNull _ _ _ _ rfl hrejected
  refine ⟨hresolved, lost_conforms, hvalue.resolve_right ?_,
    ⟨parents, last, hsegments, hset ?_⟩, hrejected, d, hd, path, hpath, heval .empty search⟩
  · rintro ⟨_, habsent⟩
    cases habsent
  · -- the only field on the way is the owner, who is set
    have hparents : parents = ["owner"] := by
      have := congrArg List.dropLast hsegments
      simpa using this.symm
    subst hparents
    rintro d v (⟨hdeclared⟩ | ⟨_, _, _, hcrosses⟩) _
    · exact fun habsent => by cases habsent
    · cases hcrosses

end Ticket

end Sift
