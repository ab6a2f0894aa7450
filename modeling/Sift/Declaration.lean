import Sift.Shape
import Sift.Text.Identifier
import Sift.Text.Uppercase

/-!
# Declarations of record types

A record type is declared by its fields, and each field may carry attributes that say how it is
searched. What follows from a declaration is the list of the fields that are exposed: a skipped
field is not, every other one is, under its own name or the one it is renamed to. Exposed names are
pairwise distinct, and each one gives the name of a constant, which has to be an identifier.

Fields are looked at in declaration order, and the first problem ends it.
-/

namespace Sift

/-! ## 1. Attributes -/

/-- The attributes of a field, merged. -/
structure Attributes where
  skip : Bool
  rename : Option String
  operator : Option Operator
  negate : Bool
  path : Option String
  ignore : Bool
  ignoreIfEmpty : Option Bool
  deriving DecidableEq, Repr

namespace Attributes

/-- A field without attributes. -/
def empty : Attributes := ⟨false, none, none, false, none, false, none⟩

instance : Inhabited Attributes := ⟨empty⟩

/-- The attributes of two lists of settings, one after the other: what the later one sets stands. -/
def followedBy (a b : Attributes) : Attributes :=
  ⟨a.skip || b.skip, b.rename.or a.rename, b.operator.or a.operator, a.negate || b.negate,
    b.path.or a.path, a.ignore || b.ignore, b.ignoreIfEmpty.or a.ignoreIfEmpty⟩

/-- The search settings that the attributes give a field. -/
def settings (a : Attributes) : Settings :=
  ⟨a.operator.getD .auto, a.negate, a.path, a.ignore, a.ignoreIfEmpty⟩

end Attributes

/-! ## 2. Problems -/

/-- Why a declaration is refused. -/
inductive DeclarationError where
  /-- The text is not a declaration at all, or an attribute in it is no list of entries. What is
      wrong with it is for the reader of the text to say; such problems are not told apart here. -/
  | malformed
  | fieldsWithoutNames
  | notARecord
  | duplicateName (name : String)
  /-- The constant of a field would have a name that is no identifier. -/
  | badConstant (name : String)
  | unknownFlag
  | unknownSetting
  | unknownForm
  | notText (key : String)
  | notTruth
  | unknownOperator (name : String)
  | badPath
  | skipWithCriterion
  | notAnEnum
  | noVariants
  | variantWithData
  deriving DecidableEq, Repr

namespace DeclarationError

/-- The message of a problem. Two have none: a text that is not read, which the reader of the text
    reports in words of its own, and a constant that cannot be named. -/
def message? : DeclarationError → Option String
  | .malformed | .badConstant _ => none
  | .fieldsWithoutNames => some "Record can only be derived for structs with named fields"
  | .notARecord => some "Record can only be derived for structs"
  | .duplicateName name => some ("duplicate field name '" ++ name ++ "'")
  | .unknownFlag => some "unknown spec flag. Expected: skip, negate, ignore, or keep_empty"
  | .unknownSetting =>
    some "unknown attribute. Expected: rename, op, path, or ignore_if_empty"
  | .unknownForm =>
    some ("unknown spec attribute. Expected: skip, negate, ignore, keep_empty, " ++
      "rename = \"...\", op = \"...\", path = \"...\", or ignore_if_empty = bool")
  | .notText key => some (key ++ " must be a string literal")
  | .notTruth => some "ignore_if_empty must be true or false"
  | .unknownOperator name =>
    some ("unknown operator: '" ++ name ++ "'. Expected one of: " ++
      ", ".intercalate (Operator.all.map Operator.name))
  | .badPath => some "path must be dotted field names, e.g. \"address.city\""
  | .skipWithCriterion => some "skip cannot be combined with criterion attributes"
  | .notAnEnum => some "FieldEnum can only be derived for enums"
  | .noVariants => some "FieldEnum requires at least one variant"
  | .variantWithData => some "FieldEnum variants cannot carry data"

/-- Remarks on other places that belong to a problem. -/
def notes : DeclarationError → List String
  | .duplicateName _ => ["first declared here"]
  | _ => []

end DeclarationError

/-! ## 3. Constants -/

/-- The name of the constant of a field: words are separated by underscores, ASCII letters are
    capitals. `afterLower` says whether a capital now starts a new word. -/
def constantFrom (afterLower : Bool) : List Char → List Char
  | [] => []
  | c :: rest =>
    if Text.uppercaseTable.has c then
      (if afterLower then ['_', c] else [c]) ++ constantFrom false rest
    else if c = '_' ∨ c = '-' ∨ c = '.' then '_' :: constantFrom false rest
    else c.toUpper :: constantFrom true rest

def constantName (name : String) : String :=
  String.ofList (constantFrom false name.toList)

/-! ## 4. Exposed fields -/

/-- A field as it is declared. -/
structure DeclaredField (τ : Type) where
  name : String
  type : τ
  attributes : Attributes

/-- A field as it is seen from outside. -/
structure ExposedField (τ : Type) where
  /-- The name under which it is seen. -/
  name : String
  /-- The declared field that is read. -/
  source : String
  type : τ
  settings : Settings
  constant : String

namespace ExposedField

variable {τ : Type}

/-- Adds a declared field to the exposed ones before it. -/
def add (before : List (ExposedField τ)) (f : DeclaredField τ) :
    Except DeclarationError (List (ExposedField τ)) :=
  let name := f.attributes.rename.getD f.name
  if f.attributes.skip then .ok before
  else if before.any (·.name == name) then .error (.duplicateName name)
  else if !Text.isIdentifier (constantName name) then .error (.badConstant (constantName name))
  else .ok (before ++ [⟨name, f.name, f.type, f.attributes.settings, constantName name⟩])

/-- The exposed fields of a declaration. A field may fail to be read; that counts when its turn
    comes. -/
def ofFields (fields : List (Except DeclarationError (DeclaredField τ))) :
    Except DeclarationError (List (ExposedField τ)) :=
  fields.foldlM (fun before field => field.bind (add before)) []

end ExposedField

/-- The shape of a record type with these exposed fields. -/
def Shape.ofExposed (name : String) (fields : List (ExposedField FieldType)) : Shape :=
  ⟨name, fields.map fun f => ⟨f.name, f.type, f.settings⟩⟩

end Sift
