import Sift.Declaration
import Sift.Declaration.Language

/-!
# Attributes

An attribute of a field is a list of entries. An entry is a flag, a setting with a right side, or a
form with arguments, which no key takes. The entries of an attribute are looked at from left to
right, the attributes of a field in the order in which they stand, and the first problem counts. A
key that occurs again replaces what it said before.

A field that is skipped takes no part in a search, so an attribute that skips it and also says how
it is searched is refused.
-/

namespace Sift

namespace Declaration

/-! ## 1. Attributes -/

inductive Attribute where
  /-- It says how the field is searched. -/
  | search (entries : List Tag)
  /-- It should say so, but is no list of entries. -/
  | malformed
  /-- It is about something else. -/
  | foreign
  deriving Repr

/-- The operators, with all their spellings. -/
def operatorSpellings : List (String × Operator) :=
  [("auto", .auto), ("eq", .equal), ("equal", .equal), ("ne", .notEqual), ("not_equal", .notEqual),
    ("gt", .greaterThan), ("gte", .greaterOrEqual), ("lt", .lessThan), ("lte", .lessOrEqual),
    ("like", .like), ("contains", .contains), ("starts_with", .startsWith),
    ("ends_with", .endsWith), ("in", .isIn), ("is_null", .isNull), ("is_not_null", .isNotNull)]

/-- Whether a text is names with single dots between them. `named` says whether a name was begun
    before it. -/
def isDottedFrom (named : Bool) : List Char → Bool
  | [] => named
  | c :: rest => if c = '.' then named && isDottedFrom false rest else isDottedFrom true rest

def isDotted (s : String) : Bool := isDottedFrom false s.toList

end Declaration

open Declaration

namespace Attributes

/-! ## 2. What entries say -/

/-- What a flag says. -/
def flag (a : Attributes) (key : Option String) : Except DeclarationError Attributes :=
  match key with
  | some "skip" => .ok { a with skip := true }
  | some "negate" => .ok { a with negate := true }
  | some "ignore" => .ok { a with ignore := true }
  | some "keep_empty" => .ok { a with ignoreIfEmpty := some false }
  | _ => .error .unknownFlag

/-- The text of a right side. -/
def textOf (key : String) : Given → Except DeclarationError String
  | .text s => .ok s
  | _ => .error (.notText key)

/-- What a setting says. -/
def setting (a : Attributes) (key : Option String) (given : Given) :
    Except DeclarationError Attributes :=
  match key with
  | some "rename" => do
    let name ← textOf "rename" given
    return { a with rename := some name }
  | some "op" => do
    let name ← textOf "op" given
    match operatorSpellings.lookup name with
    | some op => return { a with operator := some op }
    | none => throw (.unknownOperator name)
  | some "path" => do
    let path ← textOf "path" given
    if isDotted path then return { a with path := some path } else throw .badPath
  | some "ignore_if_empty" =>
    match given with
    | .truth b => .ok { a with ignoreIfEmpty := some b }
    | _ => .error .notTruth
  | _ => .error .unknownSetting

/-- Adds what an entry says. -/
def add (a : Attributes) : Tag → Except DeclarationError Attributes
  | .flag key => a.flag key
  | .setting key given => a.setting key given
  | .form _ _ => .error .unknownForm

/-- Whether a field is skipped and yet said how to be searched. -/
def contradictory (a : Attributes) : Bool :=
  a.skip && (a.operator.isSome || a.path.isSome || a.negate)

/-- What the entries of one attribute say. -/
def ofEntries (entries : List Tag) : Except DeclarationError Attributes := do
  let a ← entries.foldlM add empty
  if a.contradictory then throw .skipWithCriterion else return a

/-! ## 3. What attributes say -/

/-- What an attribute says. -/
def ofAttribute : Attribute → Except DeclarationError Attributes
  | .search entries => ofEntries entries
  | .malformed => .error .malformed
  | .foreign => .ok empty

/-- What all attributes of a field say. -/
def ofList (attributes : List Attribute) : Except DeclarationError Attributes :=
  attributes.foldlM (fun before a => before.followedBy <$> ofAttribute a) empty

end Attributes

namespace Declaration

/-! ## 4. Reading an attribute -/

/-- The entries in the brackets of an attribute. What is left in brackets within a right side does
    not matter. -/
def entries? (ts : List Token) : Option (List Tag) :=
  (Reader.list (Grammar.tag (Grammar.within false ts))).run' ⟨ts, ""⟩

/-- The attribute that a tag stands for. -/
def Attribute.ofTag : Tag → Attribute
  | .form (some "spec") ts =>
    match entries? ts with
    | some entries => .search entries
    | none => .malformed
  | .flag (some "spec") | .setting (some "spec") _ => .malformed
  | _ => .foreign

end Declaration

end Sift
