import Sift.FieldType
import Sift.Overrides
import Sift.Value

/-!
# Reading a value as a type

A predicate override is written for values of one type, so the value it is given is read as that
type first. A value that has the type is taken as it is; for any other one the predicate gets the
blank value of the type, the one that an untouched field holds.
-/

namespace Sift

namespace NumberKind

/-- Whether an integer is within the range of a kind. Integers are at most 64 bits wide to begin
    with, so the widest kinds take all of their class. -/
def holds (k : NumberKind) (n : Int) : Bool :=
  match k with
  | .i8 => -128 ≤ n && n < 128
  | .i16 => -32768 ≤ n && n < 32768
  | .i32 => -2147483648 ≤ n && n < 2147483648
  | .u8 => n < 256
  | .u16 => n < 65536
  | .u32 => n < 4294967296
  | _ => true

end NumberKind

namespace FieldType

/-- The value an untouched field of a type holds. -/
def blank : FieldType → Value
  | .text => .text ""
  | .number k =>
    match k.numberClass with
    | .signed => .number (.signed 0)
    | .unsigned => .number (.unsigned 0)
    | .float => .number (.float .zero)
  | .timestamp => .timestamp .blank
  | .enum _ => .enum 0
  | .bool => .bool false
  | .optional _ => .absent
  | .list _ => .list []
  | .record _ => .record ⟨0, true, []⟩

/-- Whether a value has a type. Records are not asked for their fields. -/
def holds : FieldType → Value → Bool
  | .text, .text _ => true
  | .number k, .number (.signed n) => k.numberClass == .signed && k.holds n.toInt
  | .number k, .number (.unsigned n) => k.numberClass == .unsigned && k.holds n.toNat
  | .number k, .number (.float _) => k.numberClass == .float
  | .timestamp, .timestamp _ => true
  | .enum _, .enum _ => true
  | .bool, .bool _ => true
  | .optional t, v => v.isAbsent || t.holds v
  | .list t, .list items => items.all t.holds
  | .record _, .record _ => true
  | _, _ => false

/-- A value, read as a type. -/
def read (t : FieldType) (v : Value) : Value :=
  if t.holds v then v else t.blank

end FieldType

/-- The predicate of a test that is written for values of one type: its value is that of the filter
    field, read as the type. -/
def Predicate.ofTest (field : String) (type : FieldType) (test : Value → Record → Bool) :
    Predicate :=
  fun record filter => test (type.read (filter.get field)) record

end Sift
