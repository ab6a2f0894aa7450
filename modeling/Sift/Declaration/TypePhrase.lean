import Sift.Declaration.Tag

/-!
# Types

Types, the paths and bounds that they are made of, and the parameters that a declaration takes. The
normal form of a list of arguments or parameters has the lifetimes in front; a comma stands after
the last one where none stood before.
-/

namespace Sift.Declaration

/-! ## 1. Lists between angles -/

/-- An argument or a parameter: how it is written, how it is written when it is referred to, and
    whether a comma follows it. -/
structure Piece where
  isLifetime : Bool
  text : String
  short : String
  comma : Bool

/-- Pieces with their commas, the lifetimes first. -/
def lifetimesFirst (text : Piece → String) (ps : List Piece) : String :=
  let write := fun (p : Piece) => text p ++ (if p.comma then "," else "")
  let lifetimes := ps.filter (·.isLifetime)
  let others := ps.filter (!·.isLifetime)
  let between := if lifetimes.any (!·.comma) && !others.isEmpty then "," else ""
  String.join (lifetimes.map write) ++ between ++ String.join (others.map write)

/-- What a path looks like. -/
structure PathForm where
  /-- It has one step and does not begin with a double colon. -/
  isSingle : Bool
  /-- No step has arguments. -/
  isPlain : Bool
  /-- The last step has no arguments. -/
  isOpen : Bool
  /-- It begins with a type between angles. -/
  isQualified : Bool

/-- Whether what is ahead can be a further bound after a plus sign. -/
def seesBound (conditional : Bool) (ts : List Token) : Bool :=
  seesAnyWord ts || seesSymbol "::" ts || seesSymbol "?" ts || seesLifetime ts ||
    seesGroup .round ts || (conditional && (seesGroup .square ts || seesWord "const" ts))

/-- Whether an opening angle begins parameters and not a path that begins with a type. -/
def opensParameters (ts : List Token) : Bool :=
  let second := past ts
  let third := past second
  seesSymbol "<" ts &&
    (seesSymbol ">" second || seesSymbol "#" second ||
      ((seesLifetime second || seesName second) &&
        (seesSymbol ">" third || seesSymbol "," third || seesColon third ||
          seesSymbol "=" third)) ||
      seesWord "const" second)

namespace Grammar

open Reader

/-- Pieces up to a closing angle, at most `n`. An item says whether it is a lifetime and how it is
    referred to. -/
def piecesFrom (item : Reader (Bool × String)) : Nat → Reader (List Piece)
  | 0 => failure
  | n + 1 => do
    if seesSymbol ">" (← ahead) then return []
    let ((isLifetime, short), text) ← apart item
    if seesSymbol ">" (← ahead) then return [⟨isLifetime, text, short, false⟩]
    let _ ← apart (symbol ",")
    return ⟨isLifetime, text, short, true⟩ :: (← piecesFrom item n)

/-- Pieces between angles, which are not written. -/
def angled (item : Reader (Bool × String)) : Reader (List Piece) := do
  let (ps, _) ← apart do
    symbol "<"
    let ps ← piecesFrom item ((← ahead).length + 1)
    symbol ">"
    return ps
  return ps

/-- Writes pieces between angles. -/
def writeAngled (ps : List Piece) : Reader Unit :=
  write ("<" ++ lifetimesFirst Piece.text ps ++ ">")

/-! ## 2. Arguments and paths -/

/-- A constant as an argument. -/
def constant (g : Grammar) : Reader Unit := do
  let ts ← ahead
  if seesLiteral ts then literal
  else if seesGroup .curly ts then g.taggedBlock
  else
    let _ ← name

/-- One argument: a lifetime, a constant, a type, or what is asked of an associated name. -/
def argument (g : Grammar) : Reader (Bool × String) := do
  let isConstant := fun ts => seesLiteral ts || seesGroup .curly ts
  let ts ← ahead
  if seesLifetime ts && !seesSymbol "+" (past ts) then
    lifetime
    return (true, "")
  if isConstant ts then
    g.constant
    return (false, "")
  if (← g.type true) = .single then
    if ← optionalSymbol "=" then
      if isConstant (← ahead) then g.constant
      else
        let _ ← g.type true
    else if ← optionalSymbol ":" then
      let _ ← listWhile (fun ts => seesSymbol "," ts || seesSymbol ">" ts) "+" (g.bound false true)
  return (false, "")

/-- Arguments between angles. -/
def arguments (g : Grammar) : Reader Unit := do
  let _ ← optionalSymbol "::"
  writeAngled (← angled g.argument)

/-- The type of a result, if it is given. -/
def result (g : Grammar) (added : Bool) : Reader Unit := do
  if ← optionalSymbol "->" then
    let _ ← g.type added

/-- Types between round brackets, and the type of the result. -/
def signatureArguments (g : Grammar) : Reader Unit := do
  let _ ← g.listIn .round (g.type true)
  g.result false

/-- A step of a path, and whether it has arguments. `inType` allows arguments that follow at once;
    elsewhere a double colon comes between. -/
def step (g : Grammar) (inType : Bool) : Reader Bool := do
  let ts ← ahead
  if seesWordOf ["super", "self", "crate", "try"] ts then
    take 1
    return false
  if seesWord "Self" ts then take 1
  else
    let _ ← name
  let ts ← ahead
  if (inType && seesSymbol "<" ts && !seesSymbol "<=" ts) ||
      (seesSymbol "::" ts && seesSymbol "<" (past (past ts))) then
    g.arguments
    return true
  else return false

/-- The steps of a path after those of a form, at most `n`. A double colon before round brackets
    belongs to the path only if it begins with a type. -/
def furtherSteps (g : Grammar) (inType : Bool) (form : PathForm) : Nat → Reader PathForm
  | 0 => return form
  | n + 1 => do
    let ts ← ahead
    if seesSymbol "::" ts && (form.isQualified || !seesGroup .round (past (past ts))) then
      symbol "::"
      let full ← g.step inType
      g.furtherSteps inType ⟨false, form.isPlain && !full, !full, form.isQualified⟩ n
    else return form

/-- A path that does not begin with a type. -/
def unqualifiedPath (g : Grammar) (inType : Bool) : Reader PathForm := do
  let rooted ← optionalSymbol "::"
  let full ← g.step inType
  g.furtherSteps inType ⟨!rooted, !full, !full, false⟩ (← ahead).length

/-- A path. It may begin with a type between angles, seen as one of its properties. -/
def path (g : Grammar) (inType : Bool) : Reader PathForm := do
  if ← optionalSymbol "<" then
    let _ ← g.type true
    if ← optionalWord "as" then
      let _ ← g.unqualifiedPath true
    symbol ">"
    symbol "::"
    let full ← g.step inType
    g.furtherSteps inType ⟨false, !full, !full, true⟩ (← ahead).length
  else g.unqualifiedPath inType

/-! ## 3. Parameters -/

/-- A lifetime as a parameter. -/
def lifetimeParameter : Reader String := do
  let (_, short) ← noted lifetime
  if ← optionalSymbol ":" then
    let _ ← listWhile (fun ts => ts.isEmpty || seesSymbol "," ts || seesSymbol ">" ts) "+" lifetime
  return short

/-- A type as a parameter. -/
def typeParameter (g : Grammar) : Reader String := do
  let short ← name
  if ← optionalSymbol ":" then
    let stop := fun ts =>
      ts.isEmpty || seesSymbol "," ts || seesSymbol ">" ts || seesSymbol "=" ts
    let _ ← listWhile stop "+" (g.bound false true)
  if ← optionalSymbol "=" then
    let _ ← g.type true
  return short

/-- A constant as a parameter. -/
def constantParameter (g : Grammar) : Reader String := do
  word "const"
  let short ← name
  symbol ":"
  let _ ← g.type true
  if ← optionalSymbol "=" then g.constant
  return short

/-- A parameter: whether it is a lifetime, and how it is referred to. `blank` allows an underscore
    for a type. -/
def parameter (g : Grammar) (blank : Bool) : Reader (Bool × String) := do
  g.skipTags
  let ts ← ahead
  if seesLifetime ts then return (true, ← lifetimeParameter)
  else if seesWord "const" ts then return (false, ← g.constantParameter)
  else if blank && seesWord "_" ts then return (false, ← anyWord)
  else return (false, ← g.typeParameter)

/-- Parameters, if there are any, and how they are referred to. -/
def parameters (g : Grammar) : Reader String := do
  if seesSymbol "<" (← ahead) then
    let ps ← angled (g.parameter true)
    if ps.isEmpty then return ""
    writeAngled ps
    return "<" ++ lifetimesFirst Piece.short ps ++ ">"
  else return ""

def skipParameters (g : Grammar) : Reader Unit := do
  let _ ← g.parameters

/-- Parameters that are bound in front of a type or a bound, if there are any, and whether there
    are. -/
def binder (g : Grammar) : Reader Bool := do
  if ← optionalWord "for" then
    symbol "<"
    let _ ← listUntil (seesSymbol ">") "," (g.parameter false)
    symbol ">"
    return true
  else return false

/-- What is asked of a parameter or a type. -/
def requirement (g : Grammar) : Reader Unit := do
  let ts ← ahead
  let ends := fun ts =>
    ts.isEmpty || seesGroup .curly ts || seesSymbol "," ts || seesSymbol ";" ts ||
      seesSymbol "=" ts
  if seesLifetime ts && seesSymbol ":" (past ts) then
    lifetime
    symbol ":"
    let _ ← listWhile (fun ts => ends ts || seesSymbol ":" ts) "+" lifetime
  else
    let _ ← g.binder
    let _ ← g.type true
    symbol ":"
    let _ ← listWhile (fun ts => ends ts || seesColon ts) "+" (g.bound false true)

/-- What is asked of the parameters, if anything is. A list without requirements is not written. -/
def requirements (g : Grammar) : Reader Unit := do
  if seesWord "where" (← ahead) then
    let (rs, text) ← apart do
      word "where"
      if opensParameters (← ahead) then failure
      let stop := fun ts =>
        ts.isEmpty || seesGroup .curly ts || seesSymbol "," ts || seesSymbol ";" ts ||
          seesColon ts || seesSymbol "=" ts
      listWhile stop "," g.requirement
    if !rs.isEmpty then write text

/-! ## 4. Bounds -/

/-- A condition on a bound, if there is one, and whether there is. -/
def condition (g : Grammar) : Reader Bool := do
  if seesGroup .square (← ahead) then
    g.inside .square (word "const")
    return true
  else optionalWord "const"

/-- A property as a bound. One that may be absent binds no parameters. -/
def property (g : Grammar) (conditional : Bool) : Reader Unit := do
  let early ← g.binder
  if (← g.condition) && !conditional then failure
  let relaxed ← optionalSymbol "?"
  let late ← if !early && relaxed then g.binder else pure false
  let path ← g.unqualifiedPath true
  let ts ← ahead
  if path.isOpen &&
      (seesGroup .round ts || (seesSymbol "::" ts && seesGroup .round (past (past ts)))) then
    let _ ← optionalSymbol "::"
    g.signatureArguments
  if relaxed && (early || late) then failure

/-- What a type captures. -/
def captures : Reader Unit := do
  word "use"
  writeAngled (← angled do
    let ts ← ahead
    if seesLifetime ts then
      lifetime
      return (true, "")
    else if seesWord "Self" ts then return (false, ← anyWord)
    else return (false, ← name))

/-- The rule for a bound. -/
def boundRule (g : Grammar) (capturing conditional : Bool) : Reader BoundForm := do
  let ts ← ahead
  if seesLifetime ts then
    lifetime
    return .lifetime
  else if seesWord "use" ts then
    if !capturing then failure
    captures
    return .captures
  else if seesGroup .round ts then g.inside .round (g.property conditional)
  else g.property conditional
  return .property

/-- Further bounds with plus signs between them, at most `n`. -/
def furtherBounds (g : Grammar) (capturing conditional : Bool) : Nat → Reader (List BoundForm)
  | 0 => return []
  | n + 1 => do
    if ← optionalSymbol "+" then
      if seesBound conditional (← ahead) then
        let b ← g.bound capturing conditional
        return b :: (← g.furtherBounds capturing conditional n)
      else return []
    else return []

/-- Bounds of a type, at least one of which is a property. `added` allows more than one. -/
def bounds (g : Grammar) (added capturing conditional : Bool) : Reader Unit := do
  let first ← g.bound capturing conditional
  let ts ← ahead
  let further ← g.furtherBounds capturing conditional (if added then ts.length else 0)
  if !(first :: further).contains .property then failure

/-! ## 5. Types -/

/-- The name of a convention, if it is given. -/
def convention : Reader Unit := do
  if ← optionalWord "extern" then optionalText

/-- One parameter in the type of a function. `first` allows it to be the receiver. -/
def typeOfParameter (g : Grammar) (first : Bool) : Reader Unit := do
  let ts ← ahead
  let isReceiver := first && seesWord "mut" ts && seesWord "self" (past ts)
  if isReceiver then take 1
  let ts ← ahead
  let named := (seesName ts || seesWord "_" ts || (first && seesWord "self" ts)) &&
    seesColon (past ts)
  if named then take 2
  let type ← ahead
  if first && !seesWord "self" ts && seesWord "mut" type && seesWord "self" (past type) then take 2
  else if isReceiver && !named then take 1
  else
    let _ ← g.type true

/-- Whether what is ahead stands for further parameters. -/
def seesVariadic (ts : List Token) : Bool :=
  seesSymbol "..." ts ||
    ((seesName ts || seesWord "_" ts) && seesSymbol ":" (past ts) &&
      seesSymbol "..." (past (past ts)))

/-- The parameters in the type of a function, at most `n`. -/
def typesOfParameters (g : Grammar) (first : Bool) : Nat → Reader Unit
  | 0 => pure ()
  | n + 1 => do
    if ← isDone then return
    g.skipTags
    let ts ← ahead
    if seesVariadic ts then
      if !seesSymbol "..." ts then take 2
      symbol "..."
      let _ ← optionalSymbol ","
    else
      g.typeOfParameter first
      if ← isDone then return
      symbol ","
      g.typesOfParameters false n

/-- The type of a function. -/
def functionType (g : Grammar) : Reader Unit := do
  let _ ← optionalWord "unsafe"
  convention
  word "fn"
  g.inside .round do
    let ts ← ahead
    g.typesOfParameters true ts.length
  g.result false

/-- A type between round brackets, or several. -/
def roundType (g : Grammar) (added : Bool) (inner : List Token) : Reader TypeForm := do
  if inner.isEmpty then
    take 1
    return .other
  else if seesLifetime inner then
    g.inside .round (g.bounds true false false)
    return .other
  else if seesSymbol "?" inner then
    g.inside .round (g.property false)
    let form := if seesSymbol "+" (← ahead) then TypeForm.other else .bound
    repeated (seesSymbol "+") do
      symbol "+"
      let _ ← g.bound false false
    return form
  else
    let form ← g.inside .round do
      let form ← g.type true
      if ← optionalSymbol "," then
        let _ ← list (g.type true)
        return TypeForm.other
      else return form
    if added && form != .other then
      repeated (seesSymbol "+") do
        symbol "+"
        let _ ← g.bound false false
    return .other

/-- A type that is given by a path, or that an invocation stands for. -/
def pathType (g : Grammar) (added bound : Bool) : Reader TypeForm := do
  let path ← g.path true
  if path.isQualified then return .other
  let ts ← ahead
  if seesBang ts && path.isPlain then
    symbol "!"
    anyGroup
    return .other
  if added && seesSymbol "+" ts then
    let _ ← g.furtherBounds false false ts.length
    return .other
  return if bound then .bound else if path.isSingle then .single else .path

/-- The rule for a type. -/
def typeRule (g : Grammar) (added : Bool) : Reader TypeForm := do
  let bound ← g.binder
  let ts ← ahead
  if bound && !(seesName ts || seesWordOf (["fn", "unsafe", "extern"] ++ pathWords) ts) then failure
  match ts with
  | .group .round inner :: _ => return ← g.roundType added inner
  | _ => pure ()
  if seesWordOf ["fn", "unsafe", "extern"] ts then g.functionType
  else if seesName ts || seesWordOf pathWords ts || seesSymbol "::" ts || seesSymbol "<" ts then
    return ← g.pathType added bound
  else if seesWord "dyn" ts then
    take 1
    let _ ← optionalSymbol "*"
    g.bounds added false false
  else if seesGroup .square ts then
    g.inside .square do
      let _ ← g.type true
      if ← optionalSymbol ";" then
        let _ ← g.expression true
  else if seesSymbol "*" ts then
    take 1
    if !(← optionalWord "const") then word "mut"
    let _ ← g.type false
  else if seesSymbol "&" ts then
    take 1
    if seesLifetime (← ahead) then lifetime
    let _ ← optionalWord "mut"
    let _ ← g.type false
  else if seesSymbol "!" ts then take 1
  else if seesWord "impl" ts then
    take 1
    g.bounds added true true
  else if seesWord "_" ts then take 1
  else if seesLifetime ts then g.bounds true false false
  else failure
  return .other

end Grammar

end Sift.Declaration
