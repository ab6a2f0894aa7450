import Sift.Binary64

/-!
# Numbers

A number keeps the representation of the field it comes from: a signed or unsigned 64-bit integer,
or a binary64 number. Two numbers of one representation are compared exactly. Two numbers of
different representations are compared after both became binary64 numbers, which merges integers
that are more than 53 bits wide.

Two notions of equality live side by side. `compare?` finds numbers of any representations equal;
`beq` keeps the representations apart.
-/

namespace Sift

inductive Number where
  | signed (n : Int64)
  | unsigned (n : UInt64)
  | float (x : Binary64)
  deriving DecidableEq, Repr, Inhabited

namespace Number

/-- The nearest binary64 number. -/
def toBinary64 : Number → Binary64
  | signed n => .ofInt n.toInt
  | unsigned n => .ofInt n.toNat
  | float x => x

/-- The order of two numbers, if both are numbers. -/
def compare? : Number → Number → Option Ordering
  | signed a, signed b => some (compare a.toInt b.toInt)
  | unsigned a, unsigned b => some (compare a.toNat b.toNat)
  | float a, float b => a.compare? b
  | a, b => a.toBinary64.compare? b.toBinary64

/-- Zero in any representation. -/
def isZero : Number → Bool
  | signed n => n == 0
  | unsigned n => n == 0
  | float x => x.isZero

/-- Strictly greater than zero in any representation. -/
def isPositive : Number → Bool
  | signed n => 0 < n.toInt
  | unsigned n => 0 < n.toNat
  | float x => x.isPositive

/-- Equality that keeps the representations apart: an integer never equals a float, nor a signed
    integer an unsigned one. -/
def beq : Number → Number → Bool
  | signed a, signed b => a == b
  | unsigned a, unsigned b => a == b
  | float a, float b => a.numEq b
  | _, _ => false

def isLess (a b : Number) : Bool := a.compare? b == some .lt

def isLessOrEqual (a b : Number) : Bool :=
  a.compare? b == some .lt || a.compare? b == some .eq

end Number

end Sift
