import Sift.Storage

/-!
# The notation of storage

A storage is written as a type: a name, and for the storages around another one, that one between
angle brackets. The two kinds of sets are written differently and stored alike; so are the three
kinds of times.
-/

namespace Sift

namespace Storage

/-- The storage of a name that takes no other one. Any name that is not one of the listed ones is
    that of an enum. -/
def ofName (name : String) : Storage :=
  match name with
  | "String" => .text
  | "bool" => .bool
  | "Timestamp" => .timestamp
  | "NaiveDateTime" | "DateTime" => .dateTime
  | "NaiveDate" => .date
  | _ =>
    match NumberKind.ofName? name with
    | some k => .number k
    | none => .enum ⟨name⟩

/-- What a name puts around the storage between its brackets. -/
def around? (name : String) : Option (Storage → Storage) :=
  match name with
  | "Option" => some .option
  | "Box" => some .box
  | "Vec" => some .list
  | "HashSet" | "BTreeSet" => some .set
  | _ => none

/-- Reads a storage; `depth` bounds how deep brackets are followed. -/
def read (depth : Nat) (cs : List Char) : Storage :=
  let name := String.ofList (cs.takeWhile (· != '<'))
  match depth, around? name with
  | depth + 1, some wrap => wrap (read depth ((cs.dropWhile (· != '<')).drop 1).dropLast)
  | _, _ => ofName name

/-- The storage that a text stands for. -/
def ofText (s : String) : Storage := read s.length s.toList

end Storage

end Sift
