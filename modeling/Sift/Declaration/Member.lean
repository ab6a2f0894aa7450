import Sift.Declaration.Statement

/-!
# What a type is made of

A type has fields with names, fields without, variants, or nothing. The parts that matter later are
kept as texts: the names, and the types in their normal form.
-/

namespace Sift.Declaration

/-- A field with a name. -/
structure FieldPart where
  name : String
  type : String
  tags : List Tag

structure Variant where
  name : String
  hasData : Bool

inductive Body where
  | fields (fields : List FieldPart)
  /-- Fields without names, or none. -/
  | positions
  | variants (variants : List Variant)
  /-- Fields that share one place. -/
  | overlay

namespace Grammar

open Reader

/-! ## 1. Fields and variants -/

/-- The type of a field whose name is blank may be written out as fields. -/
def writtenOut (g : Grammar) (field : Reader FieldPart) : Reader Unit := do
  take 1
  let _ ← g.listIn .curly field

/-- A field with a name, given a reader for the fields of its type. -/
def fieldWith (g : Grammar) (field : Reader FieldPart) : Reader FieldPart := do
  let tags ← g.tags
  g.skipVisibility
  let blank := seesWord "_" (← ahead)
  let name ← nameOrBlank
  symbol ":"
  let ts ← ahead
  let (_, type) ← noted do
    if blank && (seesWord "struct" ts || (seesWord "union" ts && seesGroup .curly (past ts))) then
      g.writtenOut field
    else
      let _ ← g.type true
  return ⟨name, type, tags⟩

/-- A field with a name, whose type is written out at most `n` levels deep. -/
def fieldTo (g : Grammar) : Nat → Reader FieldPart
  | 0 => failure
  | n + 1 => g.fieldWith (g.fieldTo n)

/-- Fields with names in curly brackets. -/
def fields (g : Grammar) : Reader (List FieldPart) := do
  let ts ← ahead
  g.listIn .curly (g.fieldTo (Token.weights ts))

/-- Fields without names in round brackets. -/
def positions (g : Grammar) : Reader Unit := do
  let _ ← g.listIn .round do
    g.skipTags
    g.skipVisibility
    g.type true

/-- A variant. Its visibility has no meaning and is not written. -/
def variant (g : Grammar) : Reader Variant := do
  g.skipTags
  let _ ← apart g.visibility
  let name ← name
  let ts ← ahead
  let hasData := seesGroup .curly ts || seesGroup .round ts
  if seesGroup .curly ts then
    let _ ← g.fields
  else if seesGroup .round ts then g.positions
  if ← optionalSymbol "=" then g.skipExpression true
  return ⟨name, hasData⟩

/-! ## 2. Bodies -/

/-- The body of a record type, with what is asked of its parameters. -/
def recordBody (g : Grammar) : Reader Body := do
  let asked := seesWord "where" (← ahead)
  g.requirements
  let ts ← ahead
  if !asked && seesGroup .round ts then
    g.positions
    g.requirements
    symbol ";"
    return .positions
  else if seesGroup .curly ts then return .fields (← g.fields)
  else
    symbol ";"
    return .positions

/-- A type with its name, its parameters as they are referred to, and its body. -/
def typeDefinition (g : Grammar) : Reader (String × String × Body) := do
  let kind ← anyWord
  let name ← name
  let parameters ← g.parameters
  match kind with
  | "struct" => return (name, parameters, ← g.recordBody)
  | "enum" =>
    g.requirements
    return (name, parameters, .variants (← g.listIn .curly g.variant))
  | "union" =>
    g.requirements
    let _ ← g.fields
    return (name, parameters, .overlay)
  | _ => failure

end Grammar

end Sift.Declaration
