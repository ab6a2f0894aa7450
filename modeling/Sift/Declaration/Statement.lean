import Sift.Declaration.Expression

/-!
# Statements

A block is a list of statements: bindings, items, invocations and expressions. An expression that
is not the last one has to end with a semicolon or with its own block.
-/

namespace Sift.Declaration

/-! ## 1. What stands ahead -/

/-- Whether an item begins with what is ahead. -/
def seesItem (ts : List Token) : Bool :=
  let second := past ts
  let third := past second
  seesWordOf ["pub", "extern", "use", "fn", "mod", "type", "struct", "enum", "trait", "impl",
    "macro"] ts ||
    (seesWord "crate" ts && !seesSymbol "::" second) ||
    (seesWord "static" ts && (seesWord "mut" second || seesName second)) ||
    (seesWord "const" ts &&
      !(seesGroup .curly second || seesWordOf ["static", "move"] second || seesSymbol "|" second ||
        (seesWord "async" second && !seesWordOf ["unsafe", "extern", "fn"] third))) ||
    (seesWord "unsafe" ts && !seesGroup .curly second) ||
    (seesWord "async" ts && seesWordOf ["unsafe", "extern", "fn"] second) ||
    (seesWord "union" ts && seesName second) || (seesWord "auto" ts && seesWord "trait" second) ||
    (seesWord "default" ts && seesWordOf ["unsafe", "impl"] second)

namespace Grammar

open Reader

/-- What follows the exclamation mark of an invocation, if one is ahead. -/
def invoked? (ts : List Token) : Option (List Token) := do
  let rest ← left? plainPath ts
  if seesSymbol "!" rest then some (past rest) else none

/-- Whether an invocation is ahead that defines something, as it gives a name. -/
def definesByInvocation (ts : List Token) : Bool :=
  (invoked? ts).any fun rest => seesName rest || seesWord "try" rest

/-- Whether an invocation with curly brackets is ahead that no member or question mark
    continues. -/
def seesInvocation (ts : List Token) : Bool :=
  (invoked? ts).any fun rest =>
    seesGroup .curly rest && !seesDot (past rest) && !seesSymbol "?" (past rest)

/-! ## 2. Statements -/

/-- Whether what was taken from some tokens, the first ones, ends with curly brackets. -/
def endsCurly (before after : List Token) : Bool :=
  match (before.take (before.length - after.length)).getLast? with
  | some (.group .curly _) => true
  | _ => false

/-- A binding. A value that ends with curly brackets has no alternative. -/
def localBinding (g : Grammar) : Reader Unit := do
  word "let"
  let _ ← g.pattern
  if ← optionalSymbol ":" then
    let _ ← g.type true
  if ← optionalSymbol "=" then
    let before ← ahead
    g.skipExpression true
    let after ← ahead
    if !endsCurly before after && seesWord "else" after then
      take 1
      g.block
  symbol ";"

/-- A statement, and whether a semicolon has to separate it from the next. -/
def statement (g : Grammar) : Reader Bool := do
  let start ← get
  g.skipTags
  let ts ← ahead
  let defines := definesByInvocation ts
  if !defines && seesInvocation ts then
    let _ ← plainPath
    symbol "!"
    anyGroup
    let _ ← optionalSymbol ";"
    return false
  else if seesWord "let" ts then
    g.localBinding
    return false
  else if defines || seesItem ts then
    set start
    g.item
    return false
  else
    let form ← g.standing
    let ended ← optionalSymbol ";"
    return !ended && form != .block && form != .invocation true

/-- The statements of a block, at most `n`. -/
def statementsFrom (g : Grammar) : Nat → Reader Unit
  | 0 => pure ()
  | n + 1 => do
    repeated (seesSymbol ";") (symbol ";")
    if ← isDone then return
    let separate ← g.statement
    if ← isDone then return
    if separate then failure
    g.statementsFrom n

/-- The rule for the statements of a block. -/
def bodyRule (g : Grammar) : Reader Unit := do
  let ts ← ahead
  g.statementsFrom ts.length

end Grammar

end Sift.Declaration
