import Sift.TypeName

/-!
# Declared types of fields

A shape declares one `FieldType` for each field. The type says how values of the field look, which
operators make sense on it and how it is written in messages:

* the scalars: text, numbers of twelve kinds, timestamps, booleans and enums;
* nested records, known by name only; their shape is looked up when it is needed;
* `optional` and `list`, in any nesting.

Most questions about a type look through one `optional` and no further, so `Option<Option<T>>` is
neither text nor a list whatever `T` is.
-/

namespace Sift

/-- The width and signedness a number is declared with. -/
inductive NumberKind where
  | i8 | i16 | i32 | i64 | isize
  | u8 | u16 | u32 | u64 | usize
  | f32 | f64
  deriving DecidableEq, Repr, Inhabited

/-- Which of the three representations the numbers of a kind take. -/
inductive NumberClass where
  | signed
  | unsigned
  | float
  deriving DecidableEq, Repr, Inhabited

namespace NumberKind

def numberClass : NumberKind → NumberClass
  | .i8 | .i16 | .i32 | .i64 | .isize => .signed
  | .u8 | .u16 | .u32 | .u64 | .usize => .unsigned
  | .f32 | .f64 => .float

/-- The name a number kind has in a type. -/
def name : NumberKind → String
  | .i8 => "i8"
  | .i16 => "i16"
  | .i32 => "i32"
  | .i64 => "i64"
  | .isize => "isize"
  | .u8 => "u8"
  | .u16 => "u16"
  | .u32 => "u32"
  | .u64 => "u64"
  | .usize => "usize"
  | .f32 => "f32"
  | .f64 => "f64"

/-- The name with a capital first letter, used where a type is written out structurally. -/
def capitalName : NumberKind → String
  | .i8 => "I8"
  | .i16 => "I16"
  | .i32 => "I32"
  | .i64 => "I64"
  | .isize => "Isize"
  | .u8 => "U8"
  | .u16 => "U16"
  | .u32 => "U32"
  | .u64 => "U64"
  | .usize => "Usize"
  | .f32 => "F32"
  | .f64 => "F64"

/-- Every kind, in declaration order. -/
def all : List NumberKind :=
  [.i8, .i16, .i32, .i64, .isize, .u8, .u16, .u32, .u64, .usize, .f32, .f64]

/-- The kind with a given name. -/
def ofName? (s : String) : Option NumberKind :=
  all.find? (·.name == s)

end NumberKind

/-- The declared type of a field. -/
inductive FieldType where
  | text
  | number (kind : NumberKind)
  | timestamp
  | enum (name : TypeName)
  | bool
  | optional (inner : FieldType)
  | list (element : FieldType)
  | record (name : TypeName)
  deriving DecidableEq, Repr, Inhabited

namespace FieldType

/-! ## 1. Questions about a type -/

def isOptional : FieldType → Bool
  | .optional _ => true
  | _ => false

def isList : FieldType → Bool
  | .list _ => true
  | _ => false

/-- Removes one `optional`, if there is one. -/
def unwrapped : FieldType → FieldType
  | .optional t => t
  | t => t

/-- The element type of a list or of an optional list. -/
def element? : FieldType → Option FieldType
  | .list t => some t
  | .optional (.list t) => some t
  | _ => none

def isText (t : FieldType) : Bool :=
  match t.unwrapped with
  | .text => true
  | _ => false

/-- Whether values of the type have an order: text, numbers and timestamps. -/
def isOrderable (t : FieldType) : Bool :=
  match t.unwrapped with
  | .text | .number _ | .timestamp => true
  | _ => false

def isRecord (t : FieldType) : Bool :=
  match t.unwrapped with
  | .record _ => true
  | _ => false

/-- The short name of an enum or record type. -/
def nominal? : FieldType → Option String
  | .enum n | .record n => some n.short
  | _ => none

@[simp] theorem unwrapped_optional (t : FieldType) : (optional t).unwrapped = t := rfl

@[simp] theorem element?_list (t : FieldType) : (list t).element? = some t := rfl

@[simp] theorem element?_optional_list (t : FieldType) :
    (optional (list t)).element? = some t := rfl

/-- Only a list, or a list inside one `optional`, has elements. -/
theorem element?_eq_some_iff {t e : FieldType} :
    t.element? = some e ↔ t = .list e ∨ t = .optional (.list e) := by
  constructor
  · intro h
    unfold element? at h
    split at h <;> simp_all
  · rintro (rfl | rfl) <;> rfl

/-! ## 2. How a type is written -/

/-- The type as messages and plans show it. -/
def display : FieldType → String
  | .text => "String"
  | .number k => k.name
  | .timestamp => "Timestamp"
  | .enum n => n.short
  | .bool => "bool"
  | .optional t => "Option<" ++ t.display ++ ">"
  | .list t => "Vec<" ++ t.display ++ ">"
  | .record n => n.short

/-- The type written constructor by constructor. -/
def inspect : FieldType → String
  | .text => "String"
  | .number k => "Number(" ++ k.capitalName ++ ")"
  | .timestamp => "Timestamp"
  | .enum n => "Enum(" ++ n.short ++ ")"
  | .bool => "Bool"
  | .optional t => "Optional(" ++ t.inspect ++ ")"
  | .list t => "List(" ++ t.inspect ++ ")"
  | .record n => "Record(" ++ n.short ++ ")"

end FieldType

end Sift
