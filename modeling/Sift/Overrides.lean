import Sift.Error
import Sift.Shape
import Sift.Table
import Sift.Value

/-!
# Overrides

The search of a filter field can be replaced by a predicate of the application's own. A predicate
is written for values of one type, which has to be the declared type of the field. The last
predicate registered for a field is the one that counts.
-/

namespace Sift

/-- A test of a model record against a filter instance. -/
abbrev Predicate := Record → Record → Bool

/-- The predicates registered for fields of one filter, in the order in which the fields were first
    registered. -/
structure Overrides where
  predicates : Table String Predicate

namespace Overrides

def empty : Overrides := ⟨.empty⟩

instance : Inhabited Overrides := ⟨empty⟩

def get? (o : Overrides) (field : String) : Option Predicate :=
  o.predicates.get? field

/-- The names of the overridden fields, each once. -/
def fields (o : Overrides) : List String := o.predicates.keys

def size (o : Overrides) : Nat := o.predicates.size

def isEmpty (o : Overrides) : Bool := o.predicates.isEmpty

theorem mem_fields_iff {o : Overrides} {field : String} :
    field ∈ o.fields ↔ (o.get? field).isSome = true :=
  (Table.get?_isSome_iff o.predicates field).symm

/-- Registers a predicate for a field, written for values of a type. Refused, in this order, are a
    name the filter does not declare, a field it ignores, and a type other than the declared one. -/
def insert (o : Overrides) (filter : Shape) (field : String) (type : FieldType) (p : Predicate) :
    Except Error Overrides :=
  match filter.field? field with
  | none => .error (.unknownField filter.name field)
  | some f =>
    if f.settings.ignore then .error (.ignoredField filter.name f.name)
    else if f.type ≠ type then .error (.incompatibleOverride filter.name f.name f.type type)
    else .ok ⟨o.predicates.put f.name p⟩

end Overrides

end Sift
