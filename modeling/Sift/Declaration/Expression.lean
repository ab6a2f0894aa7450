import Sift.Declaration.Pattern

/-!
# Expressions

An expression is operands with operators between them; how strongly an operator holds decides what
its sides are. A range and a comparison cannot be the left side of another one of their kind.
-/

namespace Sift.Declaration

/-! ## 1. What stands ahead -/

/-- The operators, each before its own beginnings. -/
def binaryOperators : List (String × Strength) :=
  [("+=", .assignment), ("-=", .assignment), ("*=", .assignment), ("/=", .assignment),
    ("%=", .assignment), ("^=", .assignment), ("&=", .assignment), ("|=", .assignment),
    ("<<=", .assignment), (">>=", .assignment), ("&&", .conjunction), ("||", .disjunction),
    ("<<", .shift), (">>", .shift), ("==", .comparison), ("<=", .comparison), ("!=", .comparison),
    (">=", .comparison), ("+", .sum), ("-", .sum), ("*", .product), ("/", .product),
    ("%", .product), ("^", .bitXor), ("&", .bitAnd), ("|", .bitOr), ("<", .comparison),
    (">", .comparison)]

def binaryAhead? (ts : List Token) : Option (String × Strength) :=
  binaryOperators.find? fun o => seesSymbol o.1 ts

/-- Whether an assignment is ahead. -/
def seesAssignment (ts : List Token) : Bool := seesSymbol "=" ts && !seesSymbol "=>" ts

/-- How strongly what is ahead holds its sides together. -/
def strengthAhead (ts : List Token) : Strength :=
  match binaryAhead? ts with
  | some (_, strength) => strength
  | none =>
    if seesAssignment ts then .assignment
    else if seesSymbol ".." ts then .range
    else if seesWord "as" ts then .cast
    else .none

/-- Whether what is ahead can begin the expression that a word such as `return` may take. -/
def seesExpression (ts : List Token) : Bool :=
  (seesAnyWord ts && !seesWord "as" ts) || seesAnyGroup ts || seesLiteral ts || seesBang ts ||
    (seesSymbol "-" ts && !seesSymbol "-=" ts && !seesSymbol "->" ts) ||
    (seesSymbol "*" ts && !seesSymbol "*=" ts) || (seesSymbol "|" ts && !seesSymbol "|=" ts) ||
    (seesSymbol "&" ts && !seesSymbol "&=" ts) || seesSymbol ".." ts ||
    (seesSymbol "<" ts && !seesSymbol "<=" ts && !seesSymbol "<<=" ts) || seesSymbol "::" ts ||
    seesLifetime ts || seesSymbol "#" ts

/-- Whether what is ahead shows that a range has no end. -/
def endsRange (records : Bool) (ts : List Token) : Bool :=
  ts.isEmpty || seesDot ts || (!records && seesGroup .curly ts) || seesWord "as" ts ||
    [",", ";", "?", "=>", "=", "+", "/", "%", "^", ">", "<=", "!=", "-=", "*=", "&=", "|=",
      "<<="].any fun s => seesSymbol s ts

/-- Whether parameters of a closure that bind lifetimes are ahead. -/
def seesBinder (ts : List Token) : Bool :=
  let second := past ts
  let third := past second
  seesWord "for" ts && seesSymbol "<" second && (seesLifetime third || seesSymbol ">" third)

/-- Whether a closure is ahead. -/
def seesClosure (ts : List Token) : Bool :=
  let second := past ts
  seesSymbol "|" ts || seesWordOf ["move", "static"] ts || seesBinder ts ||
    (seesWord "const" ts && !seesGroup .curly second) ||
    (seesWord "async" ts && (seesSymbol "|" second || seesWord "move" second))

/-- Whether a block is ahead that is computed later. -/
def seesDelayed (ts : List Token) : Bool :=
  let second := past ts
  seesWord "async" ts &&
    (seesGroup .curly second || (seesWord "move" second && seesGroup .curly (past second)))

/-- The literal ahead as an expression. -/
def literalForm : List Token → Form
  | .text s _ :: _ => .text s
  | .word "true" :: _ => .truth true
  | .word "false" :: _ => .truth false
  | _ => .other

namespace Grammar

open Reader

def skipExpression (g : Grammar) (records : Bool) : Reader Unit := do
  let _ ← g.expression records

/-! ## 2. Operators -/

/-- The right side of an operator after its first operand, in at most `n` steps. -/
def rightRest (g : Grammar) (records : Bool) (strength : Strength) (left : Form) :
    Nat → Reader Unit
  | 0 => pure ()
  | n + 1 => do
    let ts ← ahead
    let next := strengthAhead ts
    if strength.rank < next.rank || (next = strength && strength = .assignment) then
      let form ← g.continuation records next left
      if (← ahead).length < ts.length then g.rightRest records strength form n

/-- The right side of an operator. -/
def rightSide (g : Grammar) (records : Bool) (strength : Strength) : Reader Unit := do
  let left ← g.operand records
  g.rightRest records strength left (← ahead).length

/-- A range from its dots on. -/
def rangeFromDots (g : Grammar) (records : Bool) : Reader Unit := do
  let closed ← dots false
  if closed || !endsRange records (← ahead) then g.rightSide records .range

/-- What follows a cast is no part of its operand. -/
def afterCast : Reader Unit := do
  let ts ← ahead
  if seesDot ts || seesSymbol "?" ts || seesGroup .square ts || seesGroup .round ts then failure

/-- The rule for what may follow a left side. -/
def continuationRule (g : Grammar) (records : Bool) (weakest : Strength) (left : Form) :
    Reader Form := do
  let ts ← ahead
  if left = .range then return left
  match binaryAhead? ts with
  | some (operator, strength) =>
    if strength.rank < weakest.rank then return left
    if strength = .comparison && left = .comparison then failure
    symbol operator
    g.rightSide records strength
    g.continuation records weakest (if strength = .comparison then .comparison else .other)
  | none =>
    if weakest.rank ≤ Strength.assignment.rank && seesAssignment ts then
      symbol "="
      g.rightSide records .assignment
      g.continuation records weakest .other
    else if weakest.rank ≤ Strength.range.rank && seesSymbol ".." ts then
      g.rangeFromDots records
      return .range
    else if seesWord "as" ts then
      take 1
      let _ ← g.type false
      afterCast
      g.continuation records weakest .other
    else return left

/-! ## 3. Members, calls and indices -/

/-- Members without names that are written as one number with points. -/
def indices (parts : List String) : Reader Unit := do
  match parts.mapM fun p => indexOf? p.toList with
  | some ns =>
    let _ ← apart (take 1)
    write (".".intercalate (ns.map toString))
  | none => failure

/-- A member after its dot, or what is awaited. -/
def member (g : Grammar) : Reader Unit := do
  if ← optionalWord "await" then return
  let named ← memberName
  let ts ← ahead
  if named && seesSymbol "::" ts then
    g.arguments
    let _ ← g.listIn .round (g.expression true)
  else if named && seesGroup .round ts then
    let _ ← g.listIn .round (g.expression true)

/-- What follows a dot. A number with points stands for several members; if it ends with a point,
    another member follows. -/
def afterDot (g : Grammar) : Reader Unit := do
  match ← ahead with
  | .literal s :: _ =>
    if s.toList.contains '.' then
      let parts := s.splitOn "."
      if parts.getLast? = some "" then
        indices parts.dropLast
        write "."
        g.member
      else indices parts
    else g.member
  | _ => g.member

/-- Calls, indices, members and question marks behind an operand, at most `n`. -/
def trailersFrom (g : Grammar) (form : Form) : Nat → Reader Form
  | 0 => return form
  | n + 1 => do
    let ts ← ahead
    if seesGroup .round ts then
      let _ ← g.listIn .round (g.expression true)
      g.trailersFrom .other n
    else if seesDot ts && form != .range then
      take 1
      g.afterDot
      g.trailersFrom .other n
    else if seesGroup .square ts then
      g.inside .square (g.skipExpression true)
      g.trailersFrom .other n
    else if seesSymbol "?" ts && form != .range then
      take 1
      g.trailersFrom .other n
    else return form

def trailers (g : Grammar) (form : Form) : Reader Form := do
  let ts ← ahead
  g.trailersFrom form ts.length

/-! ## 4. Operands by themselves -/

/-- One part of a list in square brackets or, after a semicolon, how often the first is repeated. -/
def elements (g : Grammar) : Reader Unit := do
  if ← isDone then return
  g.skipExpression true
  if ← optionalSymbol ";" then g.skipExpression true
  else if !(← isDone) then
    symbol ","
    let _ ← list (g.expression true)

/-- A member of a record literal with its value. A member with a name may have the value of the
    variable of that name. -/
def memberValue (g : Grammar) : Reader Unit := do
  g.skipTags
  let named ← memberName
  if !named || seesSymbol ":" (← ahead) then
    symbol ":"
    g.skipExpression true

/-- Members of a record literal, at most `n`. After two dots stands the record that the other
    members are taken from. -/
def memberValues (g : Grammar) : Nat → Reader Unit
  | 0 => pure ()
  | n + 1 => do
    if ← isDone then return
    if ← optionalSymbol ".." then
      if !(← isDone) then g.skipExpression true
    else
      g.memberValue
      if ← isDone then return
      symbol ","
      g.memberValues n

/-- A path, an invocation, or a record literal. -/
def named (g : Grammar) (records : Bool) : Reader Form := do
  let path ← g.path false
  let ts ← ahead
  if !path.isQualified && seesBang ts && path.isPlain then
    symbol "!"
    let curly := seesGroup .curly (← ahead)
    anyGroup
    return .invocation curly
  if records && seesGroup .curly ts then
    g.inside .curly do
      let ts ← ahead
      g.memberValues ts.length
  return .other

/-- A parameter of a closure. -/
def closureParameter (g : Grammar) : Reader Unit := do
  g.skipTags
  let _ ← g.pattern
  if ← optionalSymbol ":" then
    let _ ← g.type true

def closure (g : Grammar) (records : Bool) : Reader Unit := do
  let _ ← g.binder
  for w in ["const", "static", "async", "move"] do
    discard (optionalWord w)
  symbol "|"
  let _ ← listUntil (seesSymbol "|") "," g.closureParameter
  symbol "|"
  if ← optionalSymbol "->" then
    let _ ← g.type true
    g.block
  else g.skipExpression records

/-- A condition with its block, and the alternatives to it, at most `n` of which are conditions. -/
def conditional (g : Grammar) : Nat → Reader Unit
  | 0 => failure
  | n + 1 => do
    word "if"
    g.skipExpression false
    g.block
    if ← optionalWord "else" then
      if seesWord "if" (← ahead) then g.conditional n else g.block

/-- One case of a selection. A comma has to follow if the expression does not end with its block. -/
def selectionCase (g : Grammar) : Reader Unit := do
  g.skipTags
  let _ ← g.alternatives
  if ← optionalWord "if" then g.skipExpression true
  symbol "=>"
  let form ← g.standing
  if form != .block && !(← isDone) then symbol ","
  else
    let _ ← optionalSymbol ","

/-- The cases of a selection. -/
def selectionCases (g : Grammar) : Reader Unit := do
  g.innerTags
  repeated (!·.isEmpty) g.selectionCase

/-- A repetition, if it is ahead, and whether it is. -/
def repetition (g : Grammar) : Reader Bool := do
  if ← optionalWord "while" then
    g.skipExpression false
    g.taggedBlock
    return true
  else if ← optionalWord "for" then
    let _ ← g.alternatives
    word "in"
    g.skipExpression false
    g.taggedBlock
    return true
  else if ← optionalWord "loop" then
    g.taggedBlock
    return true
  else return false

/-- An expression that ends with its block, if it is ahead, and whether it is. -/
def blockExpression (g : Grammar) : Reader Bool := do
  let ts ← ahead
  let second := past ts
  if seesBinder ts then return false
  if ← g.repetition then return true
  if seesWord "if" ts then g.conditional ts.length
  else if seesWord "match" ts then
    take 1
    g.skipExpression false
    g.inside .curly g.selectionCases
  else if seesWord "try" ts && seesGroup .curly second then
    take 1
    g.block
  else if seesWord "unsafe" ts || (seesWord "const" ts && seesGroup .curly second) then
    take 1
    g.taggedBlock
  else if seesGroup .curly ts then g.taggedBlock
  else if seesLifetime ts then
    lifetime
    symbol ":"
    if !(← g.repetition) then g.taggedBlock
  else return false
  return true

/-- A word that leaves what surrounds it, with the expression that it may take. -/
def departure (g : Grammar) : Reader Unit := do
  take 1
  if seesExpression (← ahead) then g.skipExpression true

/-- Leaves a repetition or a block, which may be given by its label. The expression that is taken
    cannot have a label of its own. -/
def breaking (g : Grammar) (records : Bool) : Reader Unit := do
  take 1
  let ts ← ahead
  if seesLifetime ts then
    if seesSymbol ":" (past ts) then failure
    lifetime
  let ts ← ahead
  if seesExpression ts && (records || !seesGroup .curly ts) then g.skipExpression true

/-- A pattern that an operand has to match. -/
def binding (g : Grammar) (records : Bool) : Reader Unit := do
  take 1
  let _ ← g.alternatives
  symbol "="
  let left ← g.operand records
  let _ ← g.continuation records .comparison left

/-- An operand by itself. -/
def atom (g : Grammar) (records : Bool) : Reader Form := do
  let ts ← ahead
  let second := past ts
  if seesLiteral ts then
    literal
    return literalForm ts
  if seesDelayed ts then
    take 1
    let _ ← optionalWord "move"
    g.block
  else if seesClosure ts then g.closure records
  else if seesWord "builtin" ts && seesSymbol "#" second then
    take 2
    let _ ← name
    if seesGroup .round (← ahead) then take 1 else failure
  else if seesPath ts ||
      (seesWord "try" ts && (seesSymbol "!" second || seesSymbol "::" second)) then
    return ← g.named records
  else if seesGroup .round ts then
    let _ ← g.listIn .round (g.expression true)
  else if seesWord "break" ts then g.breaking records
  else if seesWord "continue" ts then
    take 1
    if seesLifetime (← ahead) then lifetime
  else if seesWordOf ["return", "yield"] ts then g.departure
  else if seesWord "become" ts then
    take 1
    g.skipExpression true
  else if seesGroup .square ts then g.inside .square g.elements
  else if seesWord "let" ts then g.binding records
  else if seesSymbol ".." ts then
    g.rangeFromDots records
    return .range
  else if seesWord "_" ts then take 1
  else if ← g.blockExpression then return .block
  else failure
  return .other

/-! ## 5. Rules -/

/-- The rule for an operand with what stands before and after it. A tag cannot stand before a range
    without a start. -/
def operandRule (g : Grammar) (records : Bool) : Reader Form := do
  let tags ← g.tags
  let ts ← ahead
  if seesSymbol "&" ts then
    take 1
    let raw := seesWord "raw" (past ts) && seesWordOf ["mut", "const"] (past (past ts))
    if raw then take 1
    let mutable ← optionalWord "mut"
    if raw && !mutable then word "const"
    let _ ← g.operand records
    return .other
  else if seesSymbol "*" ts || seesSymbol "!" ts || seesSymbol "-" ts then
    take 1
    let _ ← g.operand records
    return .other
  else
    let form ← g.trailers (← g.atom records)
    if !tags.isEmpty && form = .range then failure
    return form

/-- The rule for an expression. -/
def expressionRule (g : Grammar) (records : Bool) : Reader Form := do
  let left ← g.operand records
  g.continuation records .none left

/-- The rule for an expression where others may follow. -/
def standingRule (g : Grammar) : Reader Form := do
  g.skipTags
  if ← g.blockExpression then
    let ts ← ahead
    if seesDot ts || seesSymbol "?" ts then
      let form ← g.trailers .block
      g.continuation true .none form
    else return .block
  else
    let form ← g.operand true
    g.continuation true .none form

end Grammar

end Sift.Declaration
