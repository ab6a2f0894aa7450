import Sift.Shape
import Sift.Value

/-!
# Field paths

A path leads from a record through nested records to a field. It is read from dotted text, where no
segment may be empty, or made from one field name, which may be any text at all.

* `access` follows a path through record objects. Where the way does not lead through records the
  answer is absent.
* `resolve?` follows a path through shapes, before there is any record. The way may lead through
  optional records, and the result says whether it does: the value may then be absent although the
  type at the end is not optional.
-/

namespace Sift

structure Path where
  segments : List String
  deriving DecidableEq, Repr, Inhabited

namespace Path

/-! ## 1. Paths and their dotted text -/

/-- The path to a field of the record itself. -/
def single (name : String) : Path := ⟨[name]⟩

/-- Cuts a text at every dot; `seen` holds the segment read so far, reversed. -/
def splitDots (seen : List Char) : List Char → List (List Char)
  | [] => [seen.reverse]
  | c :: rest =>
    if c = '.' then seen.reverse :: splitDots [] rest else splitDots (c :: seen) rest

/-- The segments of a dotted text, empty ones included. There is always at least one. -/
def segmentsOf (s : String) : List String :=
  (splitDots [] s.toList).map String.ofList

/-- Reads a dotted text. An empty segment, and so an empty text, is refused. -/
def parse? (s : String) : Option Path :=
  if (segmentsOf s).any String.isEmpty then none else some ⟨segmentsOf s⟩

/-- The dotted text of a path. -/
def display (p : Path) : String :=
  ".".intercalate p.segments

/-! ## 2. Access -/

/-- Follows segments from a value that a name was already looked up for: each further name is looked
    up in the record found so far. -/
def accessFrom (v : Value) : List String → Value
  | [] => v
  | name :: rest =>
    match v with
    | .record r => accessFrom (r.get name) rest
    | _ => .absent

/-- The value at the end of a path. -/
def access (p : Path) (root : Record) : Value :=
  match p.segments with
  | [] => .absent
  | name :: rest => accessFrom (root.get name) rest

@[simp] theorem access_single (name : String) (root : Record) :
    (single name).access root = root.get name := rfl

@[simp] theorem accessFrom_nil (v : Value) : accessFrom v [] = v := by
  cases v <;> rfl

/-! ## 3. Resolution -/

/-- A path that leads to a declared field. -/
structure Resolved where
  path : Path
  type : FieldType
  /-- Whether an optional record is crossed before the last field. -/
  throughOptional : Bool
  deriving DecidableEq, Repr

/-- Follows segments through shapes: the type of the last field, and whether an optional record was
    crossed on the way. -/
def follow? (catalog : Catalog) (shape : Shape) : List String → Option (FieldType × Bool)
  | [] => none
  | [name] => (shape.field? name).map fun f => (f.type, false)
  | name :: next :: rest => do
    let f ← shape.field? name
    match f.type.unwrapped with
    | .record n =>
      let (type, crossed) ← follow? catalog (catalog n) (next :: rest)
      return (type, f.type.isOptional || crossed)
    | _ => none

/-- Resolves a dotted text against the shape of a model. -/
def resolve? (catalog : Catalog) (model : Shape) (text : String) : Option Resolved := do
  let path ← parse? text
  let (type, throughOptional) ← follow? catalog model path.segments
  return ⟨path, type, throughOptional⟩

end Path

end Sift
