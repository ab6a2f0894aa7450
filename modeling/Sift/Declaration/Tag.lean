import Sift.Declaration.Grammar

/-!
# Tags

In front of a field, a variant, an item or an expression there may be tags: attributes between
square brackets after a hash. A tag has a path, which is a key if it is a single word, and may have
a right side or arguments in brackets.
-/

namespace Sift.Declaration

/-! ## 1. Tags -/

/-- The right side of a setting, as far as it matters. -/
inductive Given where
  | text (value : String)
  | truth (value : Bool)
  /-- Any other expression. -/
  | other
  deriving DecidableEq, Repr

/-- What stands in a tag. It has no key where its path has several steps. -/
inductive Tag where
  | flag (key : Option String)
  | setting (key : Option String) (given : Given)
  /-- Arguments in brackets, which are read when they are looked at. -/
  | form (key : Option String) (arguments : List Token)
  deriving Repr

def Given.ofForm : Form → Given
  | .text s => .text s
  | .truth b => .truth b
  | _ => .other

namespace Grammar

open Reader

/-- A step of a path without arguments. -/
def plainStep : Reader String := do
  let ts ← ahead
  if seesName ts || seesWordOf pathWords ts then anyWord else failure

/-- A path without arguments: its key, if it is a single word. -/
def plainPath : Reader (Option String) := do
  let rooted ← optionalSymbol "::"
  let first ← plainStep
  let single := !rooted && !seesSymbol "::" (← ahead)
  repeated (seesSymbol "::") do
    symbol "::"
    let _ ← plainStep
  return if single then some first else none

/-- The right side of a setting. It cannot begin with a tag. -/
def given (g : Grammar) : Reader Given := do
  let ts ← ahead
  if seesSymbol "#" ts && seesGroup .square (past ts) then failure
  return Given.ofForm (← g.expression true)

/-- What stands in a tag. -/
def tag (g : Grammar) : Reader Tag := do
  let key ← if ← optionalWord "unsafe" then pure (some "unsafe") else plainPath
  match ← ahead with
  | .group _ inner :: _ =>
    take 1
    return .form key inner
  | ts =>
    if seesSymbol "=" ts && !seesSymbol "==" ts && !seesSymbol "=>" ts then
      symbol "="
      return .setting key (← g.given)
    else return .flag key

/-- The tags in front of something, at most `n`. -/
def tagsFrom (g : Grammar) : Nat → Reader (List Tag)
  | 0 => return []
  | n + 1 => do
    if ← optionalSymbol "#" then
      let t ← g.inside .square g.tag
      return t :: (← g.tagsFrom n)
    else return []

/-- The tags in front of something. -/
def tags (g : Grammar) : Reader (List Tag) := do g.tagsFrom (← ahead).length

/-- The tags in front of something, which do not matter. -/
def skipTags (g : Grammar) : Reader Unit := do
  let _ ← g.tags

/-- The tags within a block that are about the block. -/
def innerTags (g : Grammar) : Reader Unit :=
  repeated (fun ts => seesSymbol "#" ts && seesSymbol "!" (past ts)) do
    take 2
    let _ ← g.inside .square g.tag

/-- A block that may begin with tags. -/
def taggedBlock (g : Grammar) : Reader Unit :=
  g.inside .curly do
    g.innerTags
    g.body

/-! ## 2. Visibility -/

/-- Whether brackets restrict a visibility. -/
def restricts : List Token → Bool
  | [.word w] => ["crate", "self", "super"].contains w
  | .word "in" :: _ => true
  | _ => false

/-- A visibility, if there is one, and whether there is. -/
def visibility (g : Grammar) : Reader Bool := do
  if ← optionalWord "pub" then
    match ← ahead with
    | .group .round inner :: _ =>
      if restricts inner then
        g.inside .round do
          if ← optionalWord "in" then
            let _ ← plainPath
          else take 1
    | _ => pure ()
    return true
  else return false

def skipVisibility (g : Grammar) : Reader Unit := do
  let _ ← g.visibility

end Grammar

end Sift.Declaration
