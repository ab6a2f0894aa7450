import Sift.FieldType
import Sift.Operator

/-!
# Shapes

The shape of a record type lists its fields in declaration order, each with its declared type and
its search settings. The settings matter on the filter side only. Names may repeat in a shape that
was written by hand; a field is then found at its first occurrence.

The shape of a record type is not part of the type. It is looked up in a `Catalog` each time it is
needed, so a type may contain itself.
-/

namespace Sift

/-- How a filter field takes part in a search. -/
structure Settings where
  operator : Operator
  negate : Bool
  /-- The dotted path of the model field to search, if it is not the one with the same name. -/
  path : Option String
  /-- An ignored field is no criterion. -/
  ignore : Bool
  /-- The field's own emptiness policy; unset, the one of the compiler options holds. -/
  ignoreIfEmpty : Option Bool
  deriving DecidableEq, Repr

namespace Settings

/-- The settings of a field that declares none. -/
def default : Settings := ⟨.auto, false, none, false, none⟩

instance : Inhabited Settings := ⟨default⟩

end Settings

structure Field where
  name : String
  type : FieldType
  settings : Settings
  deriving DecidableEq, Repr, Inhabited

structure Shape where
  name : String
  fields : List Field
  deriving DecidableEq, Repr, Inhabited

namespace Shape

/-- The first field with a given name. -/
def field? (s : Shape) (name : String) : Option Field :=
  s.fields.find? (·.name == name)

/-- The fields that are criteria, in declaration order. -/
def searched (s : Shape) : List Field :=
  s.fields.filter fun f => !f.settings.ignore

theorem field?_name {s : Shape} {name : String} {f : Field} (h : s.field? name = some f) :
    f.name = name := by
  have := List.find?_some h
  simpa using this

theorem field?_mem {s : Shape} {name : String} {f : Field} (h : s.field? name = some f) :
    f ∈ s.fields :=
  List.mem_of_find?_eq_some h

end Shape

/-- The shapes of all record types. -/
abbrev Catalog := TypeName → Shape

/-- The catalog of a list of shapes. A type that is not listed has no fields, and its full name is
    the name of its shape. -/
def Catalog.ofList (shapes : List (TypeName × Shape)) : Catalog :=
  fun n => (shapes.lookup n).getD ⟨n.full, []⟩

end Sift
