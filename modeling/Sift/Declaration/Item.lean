import Sift.Declaration.Member

/-!
# Items

What may be defined within a block: functions, types, constants, modules, imports, traits,
implementations, and what is defined elsewhere or by invocations.
-/

namespace Sift.Declaration

/-! ## 1. What stands ahead -/

/-- What follows a word, if it is ahead. -/
def pastWord (w : String) (ts : List Token) : List Token := if seesWord w ts then past ts else ts

/-- What follows the name of a convention, if it is ahead. -/
def pastConvention (ts : List Token) : List Token :=
  if seesWord "extern" ts then
    match past ts with
    | .text _ _ :: rest => rest
    | rest => rest
  else ts

/-- Whether the head of a function is ahead. `safe` allows it to be marked as safe. -/
def seesFunction (safe : Bool) (ts : List Token) : Bool :=
  let ts := pastWord "async" (pastWord "const" ts)
  let ts := if safe && seesWord "safe" ts then past ts else pastWord "unsafe" ts
  seesWord "fn" (pastConvention ts)

namespace Grammar

open Reader

/-! ## 2. Functions -/

/-- A parameter that is the receiver. -/
def receiver (g : Grammar) : Reader Unit := do
  let referred ← optionalSymbol "&"
  if referred && seesLifetime (← ahead) then lifetime
  let _ ← optionalWord "mut"
  word "self"
  if !referred then
    if ← optionalSymbol ":" then
      let _ ← g.type true

/-- A parameter of a function, and whether it stands for further ones. `first` allows it to be the
    receiver. A parameter without a pattern has a type with arguments. -/
def functionParameter (g : Grammar) (first : Bool) : Reader Bool := do
  let ts ← ahead
  if (left? g.receiver ts).isSome then
    if !first then failure
    g.receiver
    return false
  if seesName ts && seesSymbol "<" (past ts) then
    write "_:"
    let _ ← g.type true
    return false
  let _ ← g.pattern
  symbol ":"
  if ← optionalSymbol "..." then return true
  let _ ← g.type true
  return false

/-- The parameters of a function, at most `n`. -/
def functionParameters (g : Grammar) (first : Bool) : Nat → Reader Unit
  | 0 => pure ()
  | n + 1 => do
    if ← isDone then return
    g.skipTags
    let further ← if ← optionalSymbol "..." then pure true else g.functionParameter first
    if ← isDone then return
    symbol ","
    if !further then g.functionParameters false n

/-- The head of a function. `safe` allows it to be marked as safe. -/
def signature (g : Grammar) (safe : Bool) : Reader Unit := do
  let _ ← optionalWord "const"
  let _ ← optionalWord "async"
  if safe && seesWord "safe" (← ahead) then take 1
  else
    let _ ← optionalWord "unsafe"
  convention
  word "fn"
  let _ ← name
  g.skipParameters
  g.inside .round do
    let ts ← ahead
    g.functionParameters true ts.length
  g.result true
  g.requirements

/-- A function, which may have no body where a semicolon stands. -/
def function (g : Grammar) (safe : Bool) : Reader Unit := do
  g.signature safe
  if !(← optionalSymbol ";") then g.taggedBlock

/-! ## 3. Values and names of types -/

/-- A constant. -/
def constantItem (g : Grammar) : Reader Unit := do
  word "const"
  let _ ← nameOrBlank
  g.skipParameters
  symbol ":"
  let _ ← g.type true
  if ← optionalSymbol "=" then g.skipExpression true
  g.requirements
  symbol ";"

/-- A value with a place of its own. -/
def staticItem (g : Grammar) : Reader Unit := do
  word "static"
  let _ ← optionalWord "mut"
  let _ ← name
  if ← optionalSymbol "=" then g.skipExpression true
  else
    symbol ":"
    let _ ← g.type true
    if ← optionalSymbol "=" then g.skipExpression true
  symbol ";"

/-- A name for a type. What is asked of its parameters stands before the type, or after it. -/
def typeName (g : Grammar) (before after : Bool) : Reader Unit := do
  word "type"
  let _ ← name
  g.skipParameters
  if ← optionalSymbol ":" then
    let stop := fun ts => seesWord "where" ts || seesSymbol "=" ts || seesSymbol ";" ts
    let _ ← listUntil stop "+" (g.bound false true)
  let asked := before && seesWord "where" (← ahead)
  if before then g.requirements
  if ← optionalSymbol "=" then
    let _ ← g.type true
  if after && !asked then g.requirements
  symbol ";"

/-! ## 4. Imports -/

/-- A part of several that are imported. -/
def importPart (g : Grammar) (rooted : Bool) : Reader Unit := do
  let root ← if rooted then optionalSymbol "::" else pure false
  g.importTree (rooted && !root)

/-- The rule for what is imported. -/
def importTreeRule (g : Grammar) (rooted : Bool) : Reader Unit := do
  let ts ← ahead
  if seesName ts || seesWordOf ["self", "super", "crate", "try"] ts then
    take 1
    if ← optionalSymbol "::" then g.importTree false
    else if ← optionalWord "as" then
      let _ ← nameOrBlank
  else if seesSymbol "*" ts then take 1
  else
    let _ ← g.listIn .curly (g.importPart rooted)

def importItem (g : Grammar) : Reader Unit := do
  word "use"
  let rooted ← optionalSymbol "::"
  g.importTree (!rooted)
  symbol ";"

/-- A library that is imported. -/
def libraryItem : Reader Unit := do
  word "extern"
  word "crate"
  if seesWord "self" (← ahead) then take 1
  else
    let _ ← name
  if ← optionalWord "as" then
    let _ ← nameOrBlank
  symbol ";"

/-! ## 5. Invocations -/

/-- An invocation among items. Only curly brackets need no semicolon. -/
def invocationItem (named : Bool) : Reader Unit := do
  let _ ← plainPath
  symbol "!"
  let ts ← ahead
  if named && (seesName ts || seesWord "try" ts) then take 1
  let curly := seesGroup .curly (← ahead)
  anyGroup
  if !curly then symbol ";"

/-- The definition of an invocation. -/
def invocationDefinition : Reader Unit := do
  word "macro"
  let _ ← name
  if seesGroup .round (← ahead) then take 1
  if seesGroup .curly (← ahead) then take 1 else failure

/-- Whether what is ahead can begin an invocation among items. -/
def seesInvocationItem (ts : List Token) : Bool :=
  seesName ts || seesWordOf ["self", "super", "crate"] ts || seesSymbol "::" ts

/-! ## 6. Traits and implementations -/

/-- An item of a trait. -/
def traitPart (g : Grammar) : Reader Unit := do
  g.skipTags
  let visible ← g.visibility
  let default ← optionalWord "default"
  let ts ← ahead
  if seesFunction false ts then g.function false
  else if seesWord "const" ts then g.constantItem
  else if seesWord "type" ts then g.typeName false true
  else if !visible && !default && seesInvocationItem ts then invocationItem false
  else failure

/-- A block of items of some kind. -/
def parts (g : Grammar) (part : Reader Unit) : Reader Unit :=
  g.inside .curly do
    g.innerTags
    repeated (!·.isEmpty) part

/-- A trait, or a name for bounds. -/
def traitItem (g : Grammar) : Reader Unit := do
  let unsafe_ ← optionalWord "unsafe"
  let auto ← optionalWord "auto"
  word "trait"
  let _ ← name
  g.skipParameters
  if !unsafe_ && !auto && seesSymbol "=" (← ahead) then
    symbol "="
    let _ ← listUntil (fun ts => seesWord "where" ts || seesSymbol ";" ts) "+" (g.bound false true)
    g.requirements
    symbol ";"
  else
    if ← optionalSymbol ":" then
      let _ ← listUntil (fun ts => seesWord "where" ts || seesGroup .curly ts) "+"
        (g.bound false true)
    g.requirements
    g.parts g.traitPart

/-- An item of an implementation. -/
def implementationPart (g : Grammar) : Reader Unit := do
  g.skipTags
  let visible ← g.visibility
  let ts ← ahead
  let default := seesWord "default" ts && !seesSymbol "!" (past ts)
  if default then take 1
  let ts ← ahead
  if seesFunction false ts then g.function false
  else if seesWord "const" ts then g.constantItem
  else if seesWord "type" ts then g.typeName false true
  else if !visible && !default && seesInvocationItem ts then invocationItem false
  else failure

/-- An implementation, of a trait or of the type alone. -/
def implementationItem (g : Grammar) : Reader Unit := do
  let _ ← optionalWord "default"
  let _ ← optionalWord "unsafe"
  word "impl"
  if opensParameters (← ahead) then g.skipParameters
  let ts ← ahead
  if seesWord "const" ts || (seesSymbol "?" ts && seesWord "const" (past ts)) then
    let _ ← optionalSymbol "?"
    word "const"
  let ts ← ahead
  let negative := seesSymbol "!" ts && !seesGroup .curly (past ts)
  if negative then take 1
  let _ ← g.type true
  if ← optionalWord "for" then
    let _ ← g.type true
  else if negative then failure
  g.requirements
  g.parts g.implementationPart

/-! ## 7. What is defined elsewhere -/

/-- An item that is defined elsewhere. -/
def foreignPart (g : Grammar) : Reader Unit := do
  g.skipTags
  let visible ← g.visibility
  let ts ← ahead
  if seesFunction true ts then
    g.signature true
    if seesGroup .curly (← ahead) then g.taggedBlock else symbol ";"
  else if seesWord "static" ts ||
      (seesWordOf ["unsafe", "safe"] ts && seesWord "static" (past ts)) then
    if !seesWord "static" ts then take 1
    word "static"
    let _ ← optionalWord "mut"
    let _ ← name
    symbol ":"
    let _ ← g.type true
    if ← optionalSymbol "=" then g.skipExpression true
    symbol ";"
  else if seesWord "type" ts then g.typeName true true
  else if !visible && seesInvocationItem ts then invocationItem false
  else failure

def foreignItem (g : Grammar) : Reader Unit := do
  let _ ← optionalWord "unsafe"
  word "extern"
  optionalText
  g.parts g.foreignPart

/-! ## 8. Items -/

def moduleItem (g : Grammar) : Reader Unit := do
  let _ ← optionalWord "unsafe"
  word "mod"
  if seesWord "try" (← ahead) then take 1
  else
    let _ ← name
  if !(← optionalSymbol ";") then g.parts g.item

/-- An item whose first word does not yet say what it is. -/
def markedItem (g : Grammar) : Reader Unit := do
  let ts := past (← ahead)
  if seesWord "trait" ts || (seesWord "auto" ts && seesWord "trait" (past ts)) then g.traitItem
  else if seesWord "impl" ts then g.implementationItem
  else if seesWord "extern" ts then g.foreignItem
  else if seesWord "mod" ts then g.moduleItem
  else failure

/-- The rule for an item. -/
def itemRule (g : Grammar) : Reader Unit := do
  g.skipTags
  let visible ← g.visibility
  let ts ← ahead
  let second := past ts
  if seesFunction false ts then g.function false
  else if seesWord "extern" ts then
    if seesWord "crate" second then libraryItem else g.foreignItem
  else if seesWord "use" ts then g.importItem
  else if seesWord "static" ts then g.staticItem
  else if seesWord "const" ts then g.constantItem
  else if seesWord "unsafe" ts then g.markedItem
  else if seesWord "mod" ts then g.moduleItem
  else if seesWord "type" ts then g.typeName true false
  else if seesWordOf ["struct", "enum"] ts || (seesWord "union" ts && seesName second) then
    let _ ← g.typeDefinition
  else if seesWord "trait" ts || (seesWord "auto" ts && seesWord "trait" second) then g.traitItem
  else if seesWord "impl" ts || (seesWord "default" ts && !seesSymbol "!" second) then
    g.implementationItem
  else if seesWord "macro" ts then invocationDefinition
  else if !visible && seesInvocationItem ts then invocationItem true
  else failure

end Grammar

end Sift.Declaration
