import Sift.Declaration.TypePhrase

/-!
# Patterns

A pattern says what a value has to look like and names parts of it. Alternatives are separated by
bars.
-/

namespace Sift.Declaration

/-! ## 1. Numbers of members -/

/-- The value of digits in a base, between which underscores may stand. -/
def numberOf? (base : Nat) (digits : List Char) : Option Nat := do
  let ns ← (digits.filter (· != '_')).mapM hexDigit?
  if ns.isEmpty || ns.any (base ≤ ·) then none
  return ns.foldl (fun n d => n * base + d) 0

/-- The number of a member that has no name. It takes 32 bits. -/
def indexOf? (cs : List Char) : Option Nat := do
  let n ←
    match cs with
    | '0' :: 'x' :: rest => numberOf? 16 rest
    | '0' :: 'o' :: rest => numberOf? 8 rest
    | '0' :: 'b' :: rest => numberOf? 2 rest
    | _ => numberOf? 10 cs
  if n < 4294967296 then some n else none

/-- Whether what is ahead leads a path in a pattern or a bound of a range. -/
def seesPath (ts : List Token) : Bool :=
  seesName ts || seesSymbol "::" ts || seesSymbol "<" ts || seesWordOf pathWords ts

/-- Whether a bar is ahead that separates alternatives. -/
def seesBar (ts : List Token) : Bool :=
  seesSymbol "|" ts && !seesSymbol "||" ts && !seesSymbol "|=" ts

namespace Grammar

open Reader

/-- A member without a name. It is written in decimal. -/
def index : Reader Unit := do
  match ← ahead with
  | .literal s :: _ =>
    match indexOf? s.toList with
    | some n =>
      let _ ← apart (take 1)
      write (toString n)
    | none => failure
  | _ => failure

/-- A member, and whether it has a name. -/
def memberName : Reader Bool := do
  if seesName (← ahead) then
    let _ ← name
    return true
  else
    index
    return false

/-! ## 2. Patterns -/

/-- Alternatives, which may begin with a bar. -/
def alternatives (g : Grammar) : Reader PatternForm := do
  let led ← optionalSymbol "|"
  let form ← g.pattern
  let further := seesBar (← ahead)
  repeated seesBar do
    symbol "|"
    let _ ← g.pattern
  return if led || further then .other else form

/-- The dots of a range, and whether its end belongs to it. `obsolete` allows three dots, which are
    written as the other sign. -/
def dots (obsolete : Bool) : Reader Bool := do
  let ts ← ahead
  if seesSymbol "..=" ts then
    take 3
    return true
  else if seesSymbol "..." ts then
    if !obsolete then failure
    let _ ← apart (take 3)
    write "..="
    return true
  else
    symbol ".."
    return false

/-- A bound of a range, if there is one, and whether there is. -/
def rangeBound (g : Grammar) : Reader Bool := do
  let ts ← ahead
  if ts.isEmpty || seesSymbol "|" ts || seesSymbol "=" ts || seesColon ts || seesSymbol "," ts ||
      seesSymbol ";" ts || seesWord "if" ts then
    return false
  if seesLiteral ts then literal
  else if seesPath ts then
    let _ ← g.path false
  else if seesWord "const" ts then
    take 1
    g.taggedBlock
  else failure
  return true

/-- The rest of a range that has a start. One that includes its end has to have one. -/
def rangeRest (g : Grammar) : Reader PatternForm := do
  let closed ← dots true
  let ended ← g.rangeBound
  if closed && !ended then failure
  return if ended then .other else .halfRange

/-- A member of a record with the pattern for it. -/
def memberPattern (g : Grammar) : Reader Unit := do
  let boxed ← optionalWord "box"
  let byReference ← optionalWord "ref"
  let mutable ← optionalWord "mut"
  if boxed || byReference || mutable then
    let _ ← name
  else
    let named ← memberName
    if !named || seesSymbol ":" (← ahead) then
      symbol ":"
      let _ ← g.alternatives

/-- Members of a record, at most `n`. Two dots stand for the others. -/
def memberPatterns (g : Grammar) : Nat → Reader Unit
  | 0 => pure ()
  | n + 1 => do
    if ← isDone then return
    g.skipTags
    if ← optionalSymbol ".." then return
    g.memberPattern
    if ← isDone then return
    symbol ","
    g.memberPatterns n

/-- A pattern that begins with a path. -/
def pathPattern (g : Grammar) : Reader PatternForm := do
  let path ← g.path false
  let ts ← ahead
  if !path.isQualified && seesBang ts && path.isPlain then
    symbol "!"
    anyGroup
    return .other
  else if seesGroup .curly ts then
    g.inside .curly do
      let ts ← ahead
      g.memberPatterns ts.length
    return .other
  else if seesGroup .round ts then
    let _ ← g.listIn .round g.alternatives
    return .other
  else if seesSymbol ".." ts then g.rangeRest
  else return .other

/-- A name that is given to a value, which may have to match a pattern as well. -/
def namePattern (g : Grammar) : Reader Unit := do
  let _ ← optionalWord "ref"
  let _ ← optionalWord "mut"
  if seesWord "self" (← ahead) then take 1
  else
    let _ ← name
  if ← optionalSymbol "@" then
    let _ ← g.pattern

/-- The rule for a pattern without alternatives. -/
def patternRule (g : Grammar) : Reader PatternForm := do
  let ts ← ahead
  let second := past ts
  if (seesName ts && (seesSymbol "::" second || seesSymbol "!" second || seesGroup .curly second ||
        seesGroup .round second || seesSymbol ".." second)) ||
      (seesWord "self" ts && seesSymbol "::" second) || seesSymbol "::" ts || seesSymbol "<" ts ||
      seesWordOf ["Self", "super", "crate"] ts then
    return ← g.pathPattern
  if seesWord "_" ts then take 1
  else if seesWord "box" ts then
    take 1
    let _ ← g.pattern
  else if seesSymbol "-" ts || seesLiteral ts || seesWord "const" ts then
    if !(← g.rangeBound) then failure
    if seesSymbol ".." (← ahead) then return ← g.rangeRest
  else if seesWordOf ["ref", "mut", "self"] ts || seesName ts then g.namePattern
  else if seesSymbol "&" ts then
    take 1
    let _ ← optionalWord "mut"
    let _ ← g.pattern
  else if seesGroup .round ts then
    let _ ← g.listIn .round g.alternatives
  else if seesGroup .square ts then
    let forms ← g.listIn .square g.alternatives
    if forms.contains .halfRange then failure
  else if seesSymbol ".." ts then
    let closed ← dots false
    let ended ← g.rangeBound
    if closed && !ended then failure
    return if ended then .halfRange else .remainder
  else failure
  return .other

end Grammar

end Sift.Declaration
