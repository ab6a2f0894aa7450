import Sift.Calendar
import Sift.Declaration
import Sift.FieldType
import Sift.Timestamp
import Sift.Value

/-!
# How fields are stored

The fields of a program's own record types are stored in more ways than there are field types: dates
and times become timestamps, boxes vanish, and sets are lists. A `Storage` says how a field is
stored, a `Datum` is what is stored, and lowering one by the other gives the run-time value of the
field.

A set is listed with each element once, in the order of their values as far as these have one. An
object is an instance of a declared record type; it is lowered by the list of fields its type
exposes, so fields that are not exposed cannot be reached.
-/

namespace Sift

/-! ## 1. Storage and data -/

/-- How a field is stored. -/
inductive Storage where
  | text
  | bool
  | number (kind : NumberKind)
  | timestamp
  /-- A date with a time of day, in universal time or local. -/
  | dateTime
  /-- A date alone, which stands for its midnight. -/
  | date
  | enum (name : TypeName)
  | record (name : TypeName)
  | option (inner : Storage)
  | box (inner : Storage)
  | list (element : Storage)
  | set (element : Storage)
  deriving DecidableEq, Repr, Inhabited

/-- What is stored. -/
inductive Datum where
  | text (s : String)
  | bool (b : Bool)
  | integer (n : Int)
  | float32 (bits : UInt32)
  | float64 (x : Binary64)
  | timestamp (t : Timestamp)
  | moment (m : Moment)
  /-- A variant of an enum, by its place in the declaration. -/
  | variant (index : Nat)
  | missing
  | items (elements : List Datum)
  | object (identity : Nat) (fields : List (String × Datum))
  deriving Inhabited

namespace Storage

/-- The field type a field of this storage is declared with. -/
def fieldType : Storage → FieldType
  | .text => .text
  | .bool => .bool
  | .number k => .number k
  | .timestamp | .dateTime | .date => .timestamp
  | .enum n => .enum n
  | .record n => .record n
  | .option s => .optional s.fieldType
  | .box s => s.fieldType
  | .list s | .set s => .list s.fieldType

/-- The storage without the options and boxes around it. -/
def core : Storage → Storage
  | .option s | .box s => s.core
  | s => s

end Storage

/-! ## 2. Lowering -/

namespace Value

/-- The value of an integer that is stored as a number of a kind. -/
def ofInteger (k : NumberKind) (n : Int) : Value :=
  match k.numberClass with
  | .signed => .number (.signed (Int64.ofInt n))
  | .unsigned => .number (.unsigned (UInt64.ofNat n.toNat))
  | .float => .number (.float (.ofInt n))

/-- Whether a value comes before another one in a set. -/
def isBefore (a b : Value) : Bool := a.compare? b == some .lt

end Value

mutual

/-- Whether two data are the same. -/
def Datum.same : Datum → Datum → Bool
  | .text a, .text b => a == b
  | .bool a, .bool b => a == b
  | .integer a, .integer b => a == b
  | .float32 a, .float32 b => a == b
  | .float64 a, .float64 b => a == b
  | .timestamp a, .timestamp b => a == b
  | .moment a, .moment b => a == b
  | .variant a, .variant b => a == b
  | .missing, .missing => true
  | .items a, .items b => Datum.allSame a b
  | .object i a, .object j b => i == j && Datum.fieldsSame a b
  | _, _ => false

def Datum.allSame : List Datum → List Datum → Bool
  | [], [] => true
  | a :: as, b :: bs => a.same b && Datum.allSame as bs
  | _, _ => false

def Datum.fieldsSame : List (String × Datum) → List (String × Datum) → Bool
  | [], [] => true
  | (m, a) :: as, (n, b) :: bs => m == n && a.same b && Datum.fieldsSame as bs
  | _, _ => false

end

namespace Datum

/-- Adds an element with its value where the value belongs. -/
def insertOrdered (x : Datum × Value) : List (Datum × Value) → List (Datum × Value)
  | [] => [x]
  | y :: rest => if x.2.isBefore y.2 then x :: y :: rest else y :: insertOrdered x rest

/-- The elements of a set with their values, in the order of the values, each element once. -/
def collected (elements : List (Datum × Value)) : List (Datum × Value) :=
  elements.foldl
    (fun kept x => if kept.any (·.1.same x.1) then kept else insertOrdered x kept) []

end Datum

/-- The exposed fields of each record type. -/
abbrev Exposure := TypeName → List (ExposedField Storage)

mutual

/-- The value of what is stored. -/
def Datum.lower (exposure : Exposure) (s : Storage) : Datum → Value
  | .text t => .text t
  | .bool b => .bool b
  | .integer n =>
    match s.core with
    | .number k => Value.ofInteger k n
    | _ => .absent
  | .float32 bits => .number (.float (.ofBinary32 bits))
  | .float64 x => .number (.float x)
  | .timestamp t => .timestamp t
  | .moment m => .timestamp ⟨Int64.ofInt m.millis⟩
  | .variant index => .enum (UInt32.ofNat index)
  | .missing => .absent
  | .items elements =>
    match s.core with
    | .list e => .list (Datum.lowerAll exposure e elements)
    | .set e =>
      .list ((Datum.collected (elements.zip (Datum.lowerAll exposure e elements))).map (·.2))
    | _ => .absent
  | .object identity fields =>
    match s.core with
    | .record n => .record ⟨identity, true, Datum.lowerFields exposure (exposure n) fields⟩
    | _ => .absent

def Datum.lowerAll (exposure : Exposure) (s : Storage) : List Datum → List Value
  | [] => []
  | d :: rest => d.lower exposure s :: Datum.lowerAll exposure s rest

def Datum.lowerFields (exposure : Exposure) (fields : List (ExposedField Storage)) :
    List (String × Datum) → List (String × Value)
  | [] => []
  | (source, d) :: rest =>
    match fields.find? (·.source == source) with
    | some f => (f.name, d.lower exposure f.type) :: Datum.lowerFields exposure fields rest
    | none => Datum.lowerFields exposure fields rest

end

/-- The record of an object of a record type. -/
def Datum.toRecord (exposure : Exposure) (name : TypeName) (d : Datum) : Record :=
  ((d.lower exposure (.record name)).record?).getD default

/-! ## 3. Declared record types -/

/-- The record types of a program, with the fields they expose. -/
abbrev Library := List (TypeName × List (ExposedField Storage))

namespace Library

/-- The library of a list of declarations. A type whose declaration is refused exposes nothing. -/
def ofDeclarations (declarations : List (TypeName × List (DeclaredField Storage))) : Library :=
  declarations.map fun (n, fields) =>
    (n, ((ExposedField.ofFields (fields.map .ok)).toOption).getD [])

def exposure (l : Library) : Exposure := fun n => (l.lookup n).getD []

/-- The shapes of the record types. The name of a shape is the short name of the type. -/
def shapes (l : Library) : List (TypeName × Shape) :=
  l.map fun (n, fields) =>
    (n, Shape.ofExposed n.short (fields.map fun f =>
      ⟨f.name, f.source, f.type.fieldType, f.settings, f.constant⟩))

end Library

end Sift
