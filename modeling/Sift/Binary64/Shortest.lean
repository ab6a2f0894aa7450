import Sift.Binary64

/-!
# The shortest decimal text of a binary64 number

A finite number is written with the fewest digits that read back as the same number, and among
those with the nearest to it. All of it is exact arithmetic on naturals: the number and the two
ends of the interval of reals that round to it share one denominator, and a decimal is tried by
comparing products.

The text is positional from `0.0001` up to, but not including, ten to the sixteenth, and then has
at least one digit on either side of the point. Outside that range it is scientific.
-/

namespace Sift

namespace Binary64

/-! ## 1. The interval of reals that round to a number -/

/-- The significand and the power of two of a finite magnitude. -/
def decoded (magnitude : Nat) : Nat × Int :=
  let exponent : Nat := magnitude / Nat.pow 2 52
  let fraction : Nat := magnitude % Nat.pow 2 52
  if exponent = 0 then (fraction, -1074) else (Nat.pow 2 52 + fraction, (exponent : Int) - 1075)

/-- A number and the interval that rounds to it, all four over one denominator. -/
structure Rounding where
  low : Nat
  value : Nat
  high : Nat
  denominator : Nat
  /-- Whether the two ends round to the number as well. -/
  closed : Bool
  deriving Repr

/-- The interval of a finite positive magnitude. The neighbour below a power of two is only half as
    far away as the one above. -/
def rounding (magnitude : Nat) : Rounding :=
  let (m, q) := decoded magnitude
  let below := if m = Nat.pow 2 52 ∧ -1074 < q then 1 else 2
  let scale := if 2 ≤ q then Nat.pow 2 (q - 2).toNat else 1
  let denominator := if 2 ≤ q then 1 else Nat.pow 2 (2 - q).toNat
  ⟨(4 * m - below) * scale, 4 * m * scale, (4 * m + 2) * scale, denominator, m % 2 = 0⟩

/-! ## 2. Decimals in the interval -/

namespace Rounding

/-- The integer whose multiple of ten to the `k` lies nearest to the number and rounds to it, if one
    does. Of two at the same distance the larger one is taken. -/
def decimal? (r : Rounding) (k : Int) : Option Nat :=
  let up := if k < 0 then Nat.pow 10 (-k).toNat else 1
  let unit := r.denominator * (if k < 0 then 1 else Nat.pow 10 k.toNat)
  let inside (c : Nat) : Bool :=
    if r.closed then r.low * up ≤ c * unit && c * unit ≤ r.high * up
    else r.low * up < c * unit && c * unit < r.high * up
  let c := r.value * up / unit
  let nearer := r.value * up - c * unit < (c + 1) * unit - r.value * up
  if inside c && (nearer || !inside (c + 1)) then some c
  else if inside (c + 1) then some (c + 1)
  else none

/-- The power of ten of the leading digit. -/
def leading (r : Rounding) : Int :=
  let fits (k : Int) : Bool :=
    if k < 0 then r.denominator ≤ r.value * Nat.pow 10 (-k).toNat
    else r.denominator * Nat.pow 10 k.toNat ≤ r.value
  (((List.range 633).map fun (i : Nat) => 308 - (i : Int)).find? fits).getD (-324)

/-- The digits, as one integer, and the power of ten of the last of them. -/
def shortest (r : Rounding) : Nat × Int :=
  let tries := (List.range 17).map fun (i : Nat) => r.leading - (i : Int)
  (tries.findSome? fun k => (r.decimal? k).map fun c => (c, k)).getD (0, 0)

end Rounding

/-! ## 3. The text -/

/-- How many places stand before the point in the number `0.d₁d₂… · 10 ^ places`, and its digits,
    without zeros at the end. -/
def digitsAndPlaces (magnitude : Nat) : List Char × Int :=
  let (c, k) := (rounding magnitude).shortest
  let digits := Nat.toDigits 10 c
  let kept := (digits.reverse.dropWhile (· == '0')).reverse
  (kept, digits.length + k)

def positional (digits : List Char) (places : Int) : List Char :=
  if places ≤ 0 then
    ['0', '.'] ++ List.replicate (-places).toNat '0' ++ digits
  else if digits.length ≤ places.toNat then
    digits ++ List.replicate (places.toNat - digits.length) '0' ++ ['.', '0']
  else
    digits.take places.toNat ++ ['.'] ++ digits.drop places.toNat

def scientific (digits : List Char) (places : Int) : List Char :=
  let mantissa :=
    match digits with
    | [] => ['0']
    | [d] => [d]
    | d :: rest => d :: '.' :: rest
  mantissa ++ ['e'] ++ (toString (places - 1)).toList

/-- The text of a number in an inspection. -/
def inspect (x : Binary64) : String :=
  if x.isNaN then "NaN"
  else
    let sign := if x.isNegative then ['-'] else []
    if x.magnitude = infinityBits then String.ofList (sign ++ ['i', 'n', 'f'])
    else if x.magnitude = 0 then String.ofList (sign ++ ['0', '.', '0'])
    else
      let (digits, places) := digitsAndPlaces x.magnitude
      let body :=
        if -3 ≤ places ∧ places ≤ 16 then positional digits places else scientific digits places
      String.ofList (sign ++ body)

end Binary64

end Sift
