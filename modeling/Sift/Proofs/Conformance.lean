import Sift.Path
import Sift.Proofs.Fits

/-!
# Values of a declared type

A record need not hold what its shape declares. This file says when it does, and what follows for
two values that are to be compared:

* `Value.Conforms` -- a value is one of a declared type; `Record.Conforms` -- every field of a
  shape holds such a value;
* `Record.Conforms.access` -- a path through conforming records ends at a value of the type
  declared there. Only on the way through an optional record can it be absent instead;
* `Value.Alike` -- two values of one class, lists element by element. An absent value is alike to
  any other one, because no comparison can go wrong on it;
* `alike_of_near` -- values of two types that fit are alike.
-/

namespace Sift

/-- The class of the representation a number is kept in. -/
def Number.numberClass : Number → NumberClass
  | .signed _ => .signed
  | .unsigned _ => .unsigned
  | .float _ => .float

/-! ## 1. Conforming values -/

/-- A value is one of a declared type. -/
inductive Value.Conforms (catalog : Catalog) : FieldType → Value → Prop where
  | text (s : String) : Conforms catalog .text (.text s)
  | number {k : NumberKind} {n : Number} (h : n.numberClass = k.numberClass) :
      Conforms catalog (.number k) (.number n)
  | timestamp (t : Timestamp) : Conforms catalog .timestamp (.timestamp t)
  | enum (name : TypeName) (index : UInt32) : Conforms catalog (.enum name) (.enum index)
  | bool (b : Bool) : Conforms catalog .bool (.bool b)
  | unset (t : FieldType) : Conforms catalog (.optional t) .absent
  | set {t : FieldType} {v : Value} (h : Conforms catalog t v) : Conforms catalog (.optional t) v
  | list {t : FieldType} {items : List Value} (h : ∀ v ∈ items, Conforms catalog t v) :
      Conforms catalog (.list t) (.list items)
  | record {name : TypeName} {r : Record}
      (h : ∀ d ∈ (catalog name).fields, Conforms catalog d.type (r.get d.name)) :
      Conforms catalog (.record name) (.record r)

/-- Every field of a shape holds a value of its declared type. -/
def Record.Conforms (catalog : Catalog) (shape : Shape) (r : Record) : Prop :=
  ∀ d ∈ shape.fields, Value.Conforms catalog d.type (r.get d.name)

variable {catalog : Catalog}

namespace Value.Conforms

/-- A value of an optional type is absent or one of the type inside. -/
theorem of_optional {t : FieldType} {v : Value} (h : Conforms catalog (.optional t) v) :
    v = .absent ∨ Conforms catalog t v := by
  cases h with
  | unset => exact .inl rfl
  | set h => exact .inr h

/-- One `optional` taken away, the value is absent or one of what is left. -/
theorem unwrapped {t : FieldType} {v : Value} (h : Conforms catalog t v) :
    (t.isOptional = true ∧ v = .absent) ∨ Conforms catalog t.unwrapped v := by
  cases t with
  | optional t =>
    rcases h.of_optional with habsent | hset
    · exact .inl ⟨rfl, habsent⟩
    · exact .inr hset
  | _ => exact .inr h

/-- The values of a type with elements are lists of them, if they are there. -/
theorem elements {t e : FieldType} {v : Value} (he : t.element? = some e)
    (h : Conforms catalog t v) :
    v = .absent ∨ ∃ items, v = .list items ∧ ∀ x ∈ items, Conforms catalog e x := by
  have hlist : Conforms catalog (.list e) v →
      ∃ items, v = .list items ∧ ∀ x ∈ items, Conforms catalog e x := by
    intro h
    cases h with
    | list hitems => exact ⟨_, rfl, hitems⟩
  rcases FieldType.element?_eq_some_iff.mp he with rfl | rfl
  · exact .inr (hlist h)
  · exact h.of_optional.imp_right hlist

end Value.Conforms

/-! ## 2. Paths -/

/-- A path that goes on does so in the record its first name leads to. -/
theorem Path.access_cons {r next : Record} {name : String} {segments : List String}
    (held : r.get name = .record next) (hne : segments ≠ []) :
    access ⟨name :: segments⟩ r = access ⟨segments⟩ next := by
  cases segments with
  | nil => exact absurd rfl hne
  | cons first rest =>
    show accessFrom (r.get name) (first :: rest) = _
    rw [held]
    rfl

/-- A path that goes on at nothing ends there. -/
theorem Path.access_cons_absent {r : Record} {name : String} {segments : List String}
    (held : r.get name = .absent) : access ⟨name :: segments⟩ r = .absent := by
  show accessFrom (r.get name) segments = .absent
  rw [held]
  cases segments <;> rfl

/-- A path goes on through a field that is declared with a record type, up to one `optional`. -/
theorem Path.follow?_cons_eq_some {shape : Shape} {name : String} {segments : List String}
    {t : FieldType} {crossed : Bool} (hne : segments ≠ [])
    (h : follow? catalog shape (name :: segments) = some (t, crossed)) :
    ∃ d n inner, shape.field? name = some d ∧ d.type.unwrapped = .record n ∧
      follow? catalog (catalog n) segments = some (t, inner) ∧
      crossed = (d.type.isOptional || inner) := by
  cases segments with
  | nil => exact absurd rfl hne
  | cons next rest =>
    obtain ⟨d, hd, h⟩ := Option.bind_eq_some_iff.mp h
    split at h
    · rename_i n htype
      obtain ⟨⟨type, inner⟩, hinner, h⟩ := Option.bind_eq_some_iff.mp h
      cases h
      exact ⟨d, n, inner, hd, htype, hinner, rfl⟩
    · cases h

/-- **A field that is declared with a record type holds a record of it**, or nothing if the type is
    optional. -/
theorem Record.Conforms.crossed {shape : Shape} {r : Record} {name : String} {d : Field}
    {n : TypeName} (hr : r.Conforms catalog shape) (hd : shape.field? name = some d)
    (htype : d.type.unwrapped = .record n) :
    (d.type.isOptional = true ∧ r.get name = .absent) ∨
      ∃ next, r.get name = .record next ∧ next.Conforms catalog (catalog n) := by
  have hvalue := hr d (Shape.field?_mem hd)
  rw [Shape.field?_name hd] at hvalue
  refine hvalue.unwrapped.imp_right fun hheld => ?_
  rw [htype] at hheld
  cases hrecord : r.get name with
  | record next =>
    rw [hrecord] at hheld
    cases hheld with
    | record hnext => exact ⟨next, rfl, hnext⟩
  | _ =>
    rw [hrecord] at hheld
    cases hheld

/-- **A path through conforming records ends at a value of the type declared there**, or leads
    through an optional record that is not set. -/
theorem Record.Conforms.access {shape : Shape} {segments : List String} {t : FieldType}
    {crossed : Bool} (h : Path.follow? catalog shape segments = some (t, crossed)) {r : Record}
    (hr : r.Conforms catalog shape) :
    Value.Conforms catalog t (Path.access ⟨segments⟩ r) ∨
      (crossed = true ∧ Path.access ⟨segments⟩ r = .absent) := by
  induction segments generalizing shape r crossed with
  | nil => cases h
  | cons name rest ih =>
    by_cases hrest : rest = []
    · subst hrest
      obtain ⟨d, hd, h⟩ := Option.map_eq_some_iff.mp h
      cases h
      left
      show Value.Conforms catalog d.type (Path.accessFrom (r.get name) [])
      rw [Path.accessFrom_nil, ← Shape.field?_name hd]
      exact hr d (Shape.field?_mem hd)
    · obtain ⟨d, n, inner, hd, htype, hinner, rfl⟩ := Path.follow?_cons_eq_some hrest h
      rcases hr.crossed hd htype with ⟨hoptional, habsent⟩ | ⟨next, hheld, hnext⟩
      · exact .inr ⟨by rw [hoptional, Bool.true_or], Path.access_cons_absent habsent⟩
      · rw [Path.access_cons hheld hrest]
        exact (ih hinner hnext).imp_right fun ⟨hcrossed, habsent⟩ =>
          ⟨by rw [hcrossed, Bool.or_true], habsent⟩

/-! ## 3. Values that can be compared -/

/-- Two values of one class, numbers in one representation and lists element by element, or one
    that is absent. -/
inductive Value.Alike : Value → Value → Prop where
  | left (v : Value) : Alike .absent v
  | right (v : Value) : Alike v .absent
  | text (s t : String) : Alike (.text s) (.text t)
  | number {a b : Number} (h : a.numberClass = b.numberClass) : Alike (.number a) (.number b)
  | timestamp (s t : Timestamp) : Alike (.timestamp s) (.timestamp t)
  | enum (i j : UInt32) : Alike (.enum i) (.enum j)
  | bool (a b : Bool) : Alike (.bool a) (.bool b)
  | list {as bs : List Value} (h : ∀ a ∈ as, ∀ b ∈ bs, Alike a b) : Alike (.list as) (.list bs)
  | record (r s : Record) : Alike (.record r) (.record s)

namespace Value

theorem Alike.symm {m v : Value} (h : Alike m v) : Alike v m := by
  induction h with
  | left v => exact .right v
  | right v => exact .left v
  | text s t => exact .text t s
  | number h => exact .number h.symm
  | timestamp s t => exact .timestamp t s
  | enum i j => exact .enum j i
  | bool a b => exact .bool b a
  | list _ ih => exact .list fun b hb a ha => ih a ha b hb
  | record r s => exact .record s r

/-- Two values of one type are alike. -/
theorem alike_of_conforms {t : FieldType} {m v : Value} (hm : Conforms catalog t m)
    (hv : Conforms catalog t v) : Alike m v := by
  induction hm generalizing v with
  | text s =>
    cases hv with
    | text s' => exact .text s s'
  | number h =>
    cases hv with
    | number h' => exact .number (h.trans h'.symm)
  | timestamp s =>
    cases hv with
    | timestamp s' => exact .timestamp s s'
  | enum name i =>
    cases hv with
    | enum _ j => exact .enum i j
  | bool b =>
    cases hv with
    | bool b' => exact .bool b b'
  | unset t => exact .left v
  | set _ ih =>
    rcases hv.of_optional with rfl | hv
    · exact .right _
    · exact ih hv
  | list _ ih =>
    cases hv with
    | list hitems => exact .list fun a ha b hb => ih a ha (hitems b hb)
  | record _ _ =>
    cases hv with
    | record _ => exact .record _ _

/-- **Values of two types that fit are alike.** -/
theorem alike_of_near {a b : FieldType} {m v : Value} (h : FieldType.Near a b)
    (hv : Conforms catalog a v) (hm : Conforms catalog b m) : Alike m v := by
  rcases h with rfl | rfl | rfl
  · exact alike_of_conforms hm hv
  · exact alike_of_conforms (.set hm) hv
  · exact alike_of_conforms hm (.set hv)

end Value

end Sift
