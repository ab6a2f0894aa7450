/-!
# Names of record and enum types

A nominal type is identified by its full name and shown by its short one. The two differ when the
full name carries a module path or type arguments: `shop::Only<String>` is shown as `Only`. Two
different types may therefore look the same in a message while every comparison between types
keeps them apart, because equality is equality of the full names.
-/

namespace Sift

/-- The identity of a record or enum type. -/
structure TypeName where
  full : String
  deriving DecidableEq, Repr, Inhabited

namespace TypeName

/-- The part of a path after its last `::`; `seen` holds the segment read so far, reversed. -/
def lastSegment (seen : List Char) : List Char → List Char
  | [] => seen.reverse
  | ':' :: ':' :: rest => lastSegment [] rest
  | c :: rest => lastSegment (c :: seen) rest

/-- The name shown in messages: type arguments are dropped first, then the module path. -/
def short (n : TypeName) : String :=
  String.ofList (lastSegment [] (n.full.toList.takeWhile (· != '<')))

end TypeName

end Sift
