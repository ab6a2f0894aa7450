import Sift.Declaration.Token

/-!
# Reading tokens

A reader takes a phrase from the front of a list of tokens and leaves the rest; it gives nothing
when there is no such phrase. What it takes it also writes down, with nothing between the tokens
and in the normal form of the phrase; that is how types are printed.

What stands between brackets is read by a reader of its own. It may be asked to leave nothing.
-/

namespace Sift.Declaration

/-! ## 1. Readers -/

/-- What is left to read, and what has been written down. -/
structure Front where
  rest : List Token
  written : String

abbrev Reader (α : Type) := StateT Front Option α

/-! ## 2. What stands ahead -/

/-- The words that are no names. -/
def keywords : List String :=
  ["_", "abstract", "as", "async", "await", "become", "box", "break", "const", "continue", "crate",
    "do", "dyn", "else", "enum", "extern", "false", "final", "fn", "for", "if", "impl", "in", "let",
    "loop", "macro", "match", "mod", "move", "mut", "override", "priv", "pub", "ref", "return",
    "Self", "self", "static", "struct", "super", "trait", "true", "try", "type", "typeof", "unsafe",
    "unsized", "use", "virtual", "where", "while", "yield"]

/-- What follows the first token. The name of a lifetime counts as one. -/
def past : List Token → List Token
  | .mark '\'' _ :: .word _ :: rest => rest
  | _ :: rest => rest
  | [] => []

def seesWord (w : String) : List Token → Bool
  | .word v :: _ => v == w
  | _ => false

def seesAnyWord : List Token → Bool
  | .word _ :: _ => true
  | _ => false

/-- Whether one of some words is ahead. -/
def seesWordOf (ws : List String) : List Token → Bool
  | .word v :: _ => ws.contains v
  | _ => false

def seesName : List Token → Bool
  | .word v :: _ => !keywords.contains v
  | _ => false

def seesLifetime : List Token → Bool
  | .mark '\'' _ :: .word _ :: _ => true
  | _ => false

/-- Marks with nothing between them. -/
def seesMarks : List Char → List Token → Bool
  | [c], .mark d _ :: _ => c == d
  | c :: cs, .mark d true :: rest => c == d && seesMarks cs rest
  | _, _ => false

/-- Whether a symbol is ahead, which may be the beginning of a longer one. -/
def seesSymbol (s : String) (ts : List Token) : Bool := seesMarks s.toList ts

def seesGroup (b : Bracket) : List Token → Bool
  | .group b' _ :: _ => b == b'
  | _ => false

def seesAnyGroup : List Token → Bool
  | .group _ _ :: _ => true
  | _ => false

/-- Whether a literal is a number. -/
def isNumber (spelling : String) : Bool :=
  match spelling.toList with
  | c :: _ => c.isDigit
  | [] => false

/-- The number of tokens of the literal ahead, or 0. A minus sign belongs to the number after
    it. -/
def literalSize : List Token → Nat
  | .text _ _ :: _ | .literal _ :: _ | .word "true" :: _ | .word "false" :: _ => 1
  | .mark '-' _ :: .literal s :: _ => if isNumber s then 2 else 0
  | _ => 0

def seesLiteral (ts : List Token) : Bool := literalSize ts != 0

/-- The words that lead a path besides names. -/
def pathWords : List String := ["self", "Self", "super", "crate"]

/-- A single colon. -/
def seesColon (ts : List Token) : Bool := seesSymbol ":" ts && !seesSymbol "::" ts

/-- A single dot. -/
def seesDot (ts : List Token) : Bool := seesSymbol "." ts && !seesSymbol ".." ts

/-- An exclamation mark that does not begin a comparison. -/
def seesBang (ts : List Token) : Bool := seesSymbol "!" ts && !seesSymbol "!=" ts

namespace Reader

variable {α : Type}

/-! ## 3. Taking tokens -/

def ahead : Reader (List Token) := fun f => some (f.rest, f)

def isDone : Reader Bool := fun f => some (f.rest.isEmpty, f)

/-- Takes a number of tokens. -/
def take : Nat → Reader Unit
  | 0 => pure ()
  | n + 1 => fun f =>
    match f.rest with
    | t :: rest => take n ⟨rest, f.written ++ t.spelling⟩
    | [] => none

def write (s : String) : Reader Unit := fun f => some ((), ⟨f.rest, f.written ++ s⟩)

/-- Reads without writing, and gives what would have been written. -/
def apart (r : Reader α) : Reader (α × String) := fun f =>
  (r ⟨f.rest, ""⟩).map fun (a, g) => ((a, g.written), ⟨g.rest, f.written⟩)

/-- Reads, and gives what was written as well. -/
def noted (r : Reader α) : Reader (α × String) := do
  let (a, s) ← apart r
  write s
  return (a, s)

/-- What a reader would leave of some tokens. -/
def left? (r : Reader α) (ts : List Token) : Option (List Token) :=
  (r ⟨ts, ""⟩).map (·.2.rest)

def word (w : String) : Reader Unit := do
  if seesWord w (← ahead) then take 1 else failure

/-- A word if it is ahead, and whether it is. -/
def optionalWord (w : String) : Reader Bool := do
  if seesWord w (← ahead) then
    take 1
    return true
  else return false

def symbol (s : String) : Reader Unit := do
  if seesSymbol s (← ahead) then take s.length else failure

/-- A symbol if it is ahead, and whether it is. -/
def optionalSymbol (s : String) : Reader Bool := do
  if seesSymbol s (← ahead) then
    take s.length
    return true
  else return false

def anyWord : Reader String := do
  match ← ahead with
  | .word w :: _ =>
    take 1
    return w
  | _ => failure

def name : Reader String := do
  if seesName (← ahead) then anyWord else failure

/-- A name or an underscore. -/
def nameOrBlank : Reader String := do
  if seesWord "_" (← ahead) then anyWord else name

def lifetime : Reader Unit := do
  if seesLifetime (← ahead) then take 2 else failure

def literal : Reader Unit := do
  let n := literalSize (← ahead)
  if n = 0 then failure else take n

/-- A text between quotes, if it is ahead. -/
def optionalText : Reader Unit := do
  match ← ahead with
  | .text _ _ :: _ => take 1
  | _ => pure ()

/-- A group, whatever it holds. -/
def anyGroup : Reader Unit := do
  if seesAnyGroup (← ahead) then take 1 else failure

/-! ## 4. Groups and lists -/

/-- Reads what stands between brackets. With `exact` nothing may be left there. -/
def inside (exact : Bool) (b : Bracket) (r : Reader α) : Reader α := fun f =>
  match f.rest with
  | .group b' inner :: rest =>
    match r ⟨inner, ""⟩ with
    | some (a, g) =>
      if b ≠ b' ∨ (exact && !g.rest.isEmpty) then none
      else some (a, ⟨rest, f.written ++ b.opening ++ g.written ++ b.closing⟩)
    | none => none
  | _ => none

/-- Reads as long as `more` holds, at most `n` times. -/
def repeatFrom (more : List Token → Bool) (r : Reader Unit) : Nat → Reader Unit
  | 0 => pure ()
  | n + 1 => do
    if more (← ahead) then
      r
      repeatFrom more r n

/-- Reads as long as `more` holds. Each reading has to take a token. -/
def repeated (more : List Token → Bool) (r : Reader Unit) : Reader Unit := do
  repeatFrom more r (← ahead).length

/-- Items with a separator between them up to what `stop` sees. Without `strict` an item that no
    separator follows is the last one as well. -/
def itemsFrom (strict : Bool) (stop : List Token → Bool) (separator : String) (item : Reader α) :
    Nat → Reader (List α)
  | 0 => do if stop (← ahead) then return [] else failure
  | n + 1 => do
    if stop (← ahead) then return []
    let a ← item
    let ts ← ahead
    if stop ts || !(strict || seesSymbol separator ts) then return [a]
    symbol separator
    return a :: (← itemsFrom strict stop separator item n)

/-- Items up to the end of the group, with commas between them. A comma may follow the last. -/
def list (item : Reader α) : Reader (List α) := do
  itemsFrom true List.isEmpty "," item (← ahead).length

/-- Items up to what `stop` sees, with separators between them. -/
def listUntil (stop : List Token → Bool) (separator : String) (item : Reader α) :
    Reader (List α) := do
  itemsFrom true stop separator item (← ahead).length

/-- Items as long as separators follow, up to what `stop` sees. -/
def listWhile (stop : List Token → Bool) (separator : String) (item : Reader α) :
    Reader (List α) := do
  itemsFrom false stop separator item (← ahead).length

end Reader

end Sift.Declaration
