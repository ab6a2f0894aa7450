/-!
# Exact binary64 numbers

Floating point values are kept as the 64 bits of their interchange format, and every question about
them is answered in integers:

* the sign and the magnitude are two fields of the bits, and the magnitudes order the non-negative
  numbers, infinity included (`rank`);
* an integer becomes the nearest binary64 number, a tie going to the even significand (`ofInt`);
* a binary32 number is widened without loss (`ofBinary32`).

Nothing here depends on floating point hardware, so all of it can be evaluated in a proof.
-/

namespace Sift

/-- A binary64 number by its bits. -/
structure Binary64 where
  bits : UInt64
  deriving DecidableEq, Repr, Inhabited

namespace Binary64

/-! ## 1. The fields -/

/-- The bits of positive infinity. -/
def infinityBits : Nat := 0x7FF0000000000000

def isNegative (x : Binary64) : Bool := Nat.pow 2 63 ≤ x.bits.toNat

/-- The bits without the sign. -/
def magnitude (x : Binary64) : Nat := x.bits.toNat % Nat.pow 2 63

def isNaN (x : Binary64) : Bool := infinityBits < x.magnitude

/-- The place of a number in the order of all numbers. Both zeros have rank zero. -/
def rank (x : Binary64) : Int :=
  if x.isNegative then -(x.magnitude : Int) else x.magnitude

/-- The order of two numbers; there is none if either is not a number. -/
def compare? (x y : Binary64) : Option Ordering :=
  if x.isNaN || y.isNaN then none else some (compare x.rank y.rank)

/-- Positive zero. -/
def zero : Binary64 := ⟨0⟩

def isZero (x : Binary64) : Bool := x.compare? zero == some .eq

def isPositive (x : Binary64) : Bool := x.compare? zero == some .gt

/-- Numerical equality: the two zeros are equal, and nothing equals what is not a number. -/
def numEq (x y : Binary64) : Bool := x.compare? y == some .eq

/-! ## 2. Conversions -/

/-- `n / 2 ^ s` rounded to the nearest integer, a tie going to the even one. -/
def shiftRounded (n s : Nat) : Nat :=
  let q := n / Nat.pow 2 s
  let r := n % Nat.pow 2 s
  if Nat.pow 2 s < 2 * r ∨ (2 * r = Nat.pow 2 s ∧ q % 2 = 1) then q + 1 else q

/-- The bits of the binary64 number nearest to `n`. The significand is cut to 53 bits, its leading
    bit included; rounding up to 54 bits carries into the exponent, as it should. -/
def bitsOfNat (n : Nat) : Nat :=
  if n = 0 then 0
  else
    let e := n.log2
    let m := if e ≤ 52 then n * Nat.pow 2 (52 - e) else shiftRounded n (e - 52)
    (e + 1022) * Nat.pow 2 52 + m

/-- The binary64 number nearest to an integer of at most 64 bits. -/
def ofInt (n : Int) : Binary64 :=
  ⟨UInt64.ofNat ((if n < 0 then Nat.pow 2 63 else 0) + bitsOfNat n.natAbs)⟩

/-- The binary64 number equal to a binary32 number given by its bits. A number too small to be
    normal in the narrow format is normal in the wide one. -/
def ofBinary32 (bits : UInt32) : Binary64 :=
  let sign := bits.toNat / Nat.pow 2 31
  let exponent := bits.toNat / Nat.pow 2 23 % Nat.pow 2 8
  let fraction := bits.toNat % Nat.pow 2 23
  let magnitude :=
    if exponent = 255 then infinityBits + fraction * Nat.pow 2 29
    else if exponent = 0 then
      if fraction = 0 then 0
      else (fraction.log2 + 873) * Nat.pow 2 52 + fraction * Nat.pow 2 (52 - fraction.log2)
    else (exponent + 896) * Nat.pow 2 52 + fraction * Nat.pow 2 29
  ⟨UInt64.ofNat (sign * Nat.pow 2 63 + magnitude)⟩

end Binary64

end Sift
