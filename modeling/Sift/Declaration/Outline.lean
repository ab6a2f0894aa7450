import Sift.Declaration.Attribute

/-!
# Declared types

A declaration names a type and says what it is made of. Two things can be drawn from it: from a
type with named fields the fields that it exposes, from a type that is a choice of plain names the
index of each of them.

The parts of a declaration may be given as texts, which are put together to the text of the whole.
That text is read before anything is drawn from it, save the entries of the attributes: these are
read field by field, so a problem of an earlier field comes before a list that is none.
-/

namespace Sift

open Declaration

/-- A type as it is declared. -/
structure Declaration where
  name : String
  /-- The parameters as they are referred to, between angles. -/
  parameters : String
  body : Body

namespace Declaration

/-! ## 1. Declarations by their texts -/

/-- A field by its texts. -/
structure FieldText where
  name : String
  type : String
  attributes : List String

/-- What a type is made of, by texts. -/
inductive Draft where
  | fields (fields : List FieldText)
  /-- Fields without names. -/
  | positions
  | nothing
  /-- Variants, each by its text. -/
  | variants (texts : List String)
  /-- Fields that share one place. -/
  | overlay

/-- The text of a field, with its attributes in front. -/
def FieldText.text (f : FieldText) : String :=
  String.join (f.attributes.map fun a => "#[spec(" ++ a ++ ")] ")
    ++ f.name ++ ": " ++ f.type ++ ", "

/-- The text of a declaration. -/
def Draft.text (name : String) : Draft → String
  | .fields fs => "struct " ++ name ++ " \x7b " ++ String.join (fs.map (·.text)) ++ "\x7d"
  | .positions => "struct " ++ name ++ "(u8, u8);"
  | .nothing => "struct " ++ name ++ ";"
  | .variants texts => "enum " ++ name ++ " \x7b " ++ ", ".intercalate texts ++ " \x7d"
  | .overlay => "union " ++ name ++ " \x7b a: u8 \x7d"

/-! ## 2. Reading a declaration -/

/-- A declaration with its attributes and its visibility, which do not matter. -/
def reader (g : Grammar) : Reader Declaration := do
  g.skipTags
  g.skipVisibility
  let (name, parameters, body) ← g.typeDefinition
  return ⟨name, parameters, body⟩

/-- The declaration that a text is. -/
def ofText? (s : String) : Option Declaration := do
  let ts ← Token.ofText? s
  let (d, left) ← reader (.within true ts) ⟨ts, ""⟩
  if left.rest.isEmpty then some d else none

/-- The declaration that a text is, or the problem that it is none. -/
def ofText (s : String) : Except DeclarationError Declaration :=
  match ofText? s with
  | some d => .ok d
  | none => .error .malformed

/-- A text without its plain spaces. -/
def withoutBlanks (s : String) : String := String.ofList (s.toList.filter (· != ' '))

/-- The type as it is referred to. -/
def typeText (d : Declaration) : String := d.name ++ withoutBlanks d.parameters

/-! ## 3. What is drawn from a declaration -/

/-- A field with what its attributes say, unless they are refused. -/
def declaredField (f : FieldPart) : Except DeclarationError (DeclaredField String) :=
  (Attributes.ofList (f.tags.map Attribute.ofTag)).map fun a =>
    ⟨f.name, withoutBlanks f.type, a⟩

/-- The fields that a record type exposes. -/
def exposedFields (d : Declaration) : Except DeclarationError (List (ExposedField String)) :=
  match d.body with
  | .fields fields => ExposedField.ofFields (fields.map declaredField)
  | .positions => .error .fieldsWithoutNames
  | .variants _ | .overlay => .error .notARecord

/-- The variants of an enum with their indices, which count from 0 in declaration order whatever
    number a variant is given. -/
def indices (d : Declaration) : Except DeclarationError (List (String × Nat)) :=
  match d.body with
  | .variants variants =>
    if variants.isEmpty then .error .noVariants
    else if variants.any (·.hasData) then .error .variantWithData
    else .ok (variants.mapIdx fun i v => (v.name, i))
  | _ => .error .notAnEnum

end Declaration

end Sift
