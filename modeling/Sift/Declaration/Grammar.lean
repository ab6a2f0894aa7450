import Sift.Declaration.Reader

/-!
# The readers of a grammar

Types, expressions, patterns, statements and items contain one another. The rule for each of them
is given the readers for the phrases within, so that no rule refers to itself; the rules are tied
together in one place, which bounds how deep phrases may be nested.

A reader also says what matters of the phrase to the rules around it.
-/

namespace Sift.Declaration

/-! ## 1. What matters of a phrase -/

inductive TypeForm where
  /-- A path of one step. -/
  | single
  /-- A longer path, which does not begin with a type. -/
  | path
  /-- A single bound. -/
  | bound
  | other
  deriving DecidableEq, Repr

inductive BoundForm where
  | lifetime
  | captures
  | property
  deriving DecidableEq, Repr

inductive Form where
  | text (value : String)
  | truth (value : Bool)
  /-- A range, which cannot be the left side of an operator. -/
  | range
  /-- Two sides that are compared. -/
  | comparison
  /-- An expression that ends with its block, so no separator has to follow it. -/
  | block
  /-- An invocation, and whether its brackets are curly. -/
  | invocation (curly : Bool)
  | other
  deriving DecidableEq, Repr

inductive PatternForm where
  /-- Two dots for what the other patterns do not match. -/
  | remainder
  /-- A range with one end. -/
  | halfRange
  | other
  deriving DecidableEq, Repr

/-- How strongly what joins two operands holds them together, from the weakest on. -/
inductive Strength where
  | none
  | assignment
  | range
  | disjunction
  | conjunction
  | comparison
  | bitOr
  | bitXor
  | bitAnd
  | shift
  | sum
  | product
  | cast
  deriving DecidableEq, Repr

def Strength.rank : Strength → Nat
  | .none => 0
  | .assignment => 1
  | .range => 2
  | .disjunction => 3
  | .conjunction => 4
  | .comparison => 5
  | .bitOr => 6
  | .bitXor => 7
  | .bitAnd => 8
  | .shift => 9
  | .sum => 10
  | .product => 11
  | .cast => 12

/-! ## 2. Readers for the phrases within -/

structure Grammar where
  /-- Whether brackets may hold nothing besides the phrase that is looked for in them. -/
  exact : Bool
  /-- A type. `added` allows bounds that are added to it. -/
  type : (added : Bool) → Reader TypeForm
  /-- A bound. `capturing` allows a list of what is captured, `conditional` a condition. -/
  bound : (capturing conditional : Bool) → Reader BoundForm
  /-- An expression. `records` allows a record literal that no bracket encloses. -/
  expression : (records : Bool) → Reader Form
  /-- An operand with what stands before and after it. -/
  operand : (records : Bool) → Reader Form
  /-- What may follow a left side and holds at least as strongly as `weakest`. -/
  continuation : (records : Bool) → (weakest : Strength) → (left : Form) → Reader Form
  /-- An expression where others may follow: after the block that ends one, only a member or a
      question mark continues it. -/
  standing : Reader Form
  /-- A pattern without alternatives. -/
  pattern : Reader PatternForm
  /-- The statements of a block. -/
  body : Reader Unit
  /-- An item, such as a function or a type, with its attributes. -/
  item : Reader Unit
  /-- What is imported. `rooted` allows a path that begins with a double colon. -/
  importTree : (rooted : Bool) → Reader Unit

namespace Grammar

/-- A grammar without phrases. -/
def empty (exact : Bool) : Grammar :=
  ⟨exact, fun _ => failure, fun _ _ => failure, fun _ => failure, fun _ => failure,
    fun _ _ _ => failure, failure, failure, failure, failure, fun _ => failure⟩

open Reader

/-- What stands between brackets. -/
def inside {α : Type} (g : Grammar) (b : Bracket) (r : Reader α) : Reader α :=
  Reader.inside g.exact b r

/-- A list between brackets. -/
def listIn {α : Type} (g : Grammar) (b : Bracket) (item : Reader α) : Reader (List α) :=
  g.inside b (list item)

/-- A block of statements. -/
def block (g : Grammar) : Reader Unit := g.inside .curly g.body

end Grammar

end Sift.Declaration
