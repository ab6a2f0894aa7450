import Mathlib.Algebra.Field.Rat
import Mathlib.Tactic.Ring
import Mathlib.Tactic.NormNum
import Sift.Number

/-!
# What numbers stand for

A number is kept in one of three representations. `Number.amount` says what it stands for in each of
them: a rational number, one of the infinities, or no number at all.

The amount of a binary floating point number is read off the fields of its interchange format, for
any width of them. So the widening of binary32 to binary64 can be compared with the format itself:
`Binary64.amount_ofBinary32` says that it keeps the amount, that of subnormal numbers included.
-/

namespace Sift

/-- What a number stands for. -/
inductive Amount where
  | finite (q : ℚ)
  | infinite (negative : Bool)
  | notANumber

namespace Amount

/-! ## 1. Interchange formats -/

/-- The digits of a number with `p` bits of fraction. The least exponent stands for numbers without
    a leading bit. -/
def significand (p exponent fraction : Nat) : ℚ :=
  if exponent = 0 then fraction else 2 ^ p + fraction

/-- The power of two that the last digit stands for. -/
def power (p w exponent : Nat) : ℤ := max exponent 1 - (2 ^ (w - 1) - 1) - p

/-- The amount of a floating point number with `p` bits of fraction and `w` bits of exponent, by its
    fields. The greatest exponent is not one of a finite number. -/
def ofFields (p w sign exponent fraction : Nat) : Amount :=
  if exponent = 2 ^ w - 1 then
    if fraction = 0 then .infinite (sign == 1) else .notANumber
  else .finite ((-1) ^ sign * significand p exponent fraction * 2 ^ power p w exponent)

/-- Digits may be added at the end. -/
theorem ofFields_shifted {p w e f p' w' e' f' s k : Nat} (h : e ≠ 2 ^ w - 1) (h' : e' ≠ 2 ^ w' - 1)
    (hdigits : significand p' e' f' = significand p e f * 2 ^ k)
    (hpower : power p' w' e' + k = power p w e) :
    ofFields p' w' s e' f' = ofFields p w s e f := by
  have hscale : (2 : ℚ) ^ k * 2 ^ power p' w' e' = 2 ^ power p w e := by
    rw [← zpow_natCast, ← zpow_add₀ two_ne_zero, add_comm, hpower]
  unfold ofFields
  rw [if_neg h, if_neg h', hdigits, ← hscale]
  congr 1
  ring

/-- The amount of a floating point number by its bits. -/
def ofBits (p w bits : Nat) : Amount :=
  ofFields p w (bits / 2 ^ (p + w)) (bits / 2 ^ p % 2 ^ w) (bits % 2 ^ p)

/-- The amount of a binary32 number by its bits. -/
def ofBinary32 (bits : UInt32) : Amount := ofBits 23 8 bits.toNat

end Amount

namespace Binary64

open Amount

/-- What a binary64 number stands for. -/
def amount (x : Binary64) : Amount := ofBits 52 11 x.bits.toNat

variable {s e f : Nat}

/-- The fields of a binary64 number can be read off its bits. -/
theorem amount_of_fields (hs : s < 2) (he : e < 2048) (hf : f < 4503599627370496) :
    amount ⟨UInt64.ofNat (s * Nat.pow 2 63 + (e * Nat.pow 2 52 + f))⟩ = ofFields 52 11 s e f := by
  have hbits : (UInt64.ofNat (s * Nat.pow 2 63 + (e * Nat.pow 2 52 + f))).toNat =
      s * 9223372036854775808 + (e * 4503599627370496 + f) := by
    refine UInt64.toNat_ofNat_of_lt ?_
    show s * 9223372036854775808 + (e * 4503599627370496 + f) < 18446744073709551616
    omega
  have hsign : (s * 9223372036854775808 + (e * 4503599627370496 + f)) / 2 ^ (52 + 11) = s := by
    omega
  have hexponent :
      (s * 9223372036854775808 + (e * 4503599627370496 + f)) / 2 ^ 52 % 2 ^ 11 = e := by
    omega
  have hfraction : (s * 9223372036854775808 + (e * 4503599627370496 + f)) % 2 ^ 52 = f := by
    omega
  unfold amount ofBits
  rw [hbits, hsign, hexponent, hfraction]

/-- The magnitude of the wide number that a narrow one becomes, by its fields. -/
def widened (exponent fraction : Nat) : Nat :=
  if exponent = 255 then infinityBits + fraction * Nat.pow 2 29
  else if exponent = 0 then
    if fraction = 0 then 0
    else (fraction.log2 + 873) * Nat.pow 2 52 + fraction * Nat.pow 2 (52 - fraction.log2)
  else (exponent + 896) * Nat.pow 2 52 + fraction * Nat.pow 2 29

theorem ofBinary32_eq (bits : UInt32) : ofBinary32 bits =
    ⟨UInt64.ofNat (bits.toNat / Nat.pow 2 31 * Nat.pow 2 63 +
      widened (bits.toNat / Nat.pow 2 23 % Nat.pow 2 8) (bits.toNat % Nat.pow 2 23))⟩ := rfl

/-! ## 2. Widening -/

/-- The fields of the wide number that a narrow one becomes: they stand for the same amount. -/
structure Widens (sign exponent fraction wideExponent wideFraction : Nat) : Prop where
  magnitude : widened exponent fraction = wideExponent * Nat.pow 2 52 + wideFraction
  exponent_lt : wideExponent < 2048
  fraction_lt : wideFraction < 4503599627370496
  amount : ofFields 52 11 sign wideExponent wideFraction = ofFields 23 8 sign exponent fraction

/-- Infinities and what is no number. -/
theorem widens_greatest (hf : f < 8388608) : Widens s 255 f 2047 (f * 536870912) := by
  refine ⟨?_, by omega, by omega, ?_⟩
  · simp [widened, infinityBits]
  · simp [ofFields]

/-- Zero. -/
theorem widens_zero : Widens s 0 0 0 0 := by
  refine ⟨rfl, by omega, by omega, ?_⟩
  simp [ofFields, significand]

/-- A number without a leading bit gets one. -/
theorem widens_subnormal (hf : f < 8388608) (hne : f ≠ 0) :
    Widens s 0 f (f.log2 + 874) (f * 2 ^ (52 - f.log2) - 4503599627370496) := by
  have hleast : 2 ^ f.log2 ≤ f := Nat.log2_self_le hne
  have hlog : f.log2 < 23 := (Nat.pow_lt_pow_iff_right (by decide)).mp (hleast.trans_lt hf)
  -- shifted until its leading bit is the one that is left out
  have hshifted : 4503599627370496 ≤ f * 2 ^ (52 - f.log2) ∧
      f * 2 ^ (52 - f.log2) < 9007199254740992 := by
    have hone : 2 ^ f.log2 * 2 ^ (52 - f.log2) = 4503599627370496 := by
      rw [← pow_add, Nat.add_sub_cancel' (by omega)]
      norm_num
    have hgreatest : f < 2 ^ f.log2 * 2 := by
      rw [← pow_succ]
      exact Nat.lt_log2_self
    constructor
    · rw [← hone]
      exact Nat.mul_le_mul_right _ hleast
    · calc f * 2 ^ (52 - f.log2) < 2 ^ f.log2 * 2 * 2 ^ (52 - f.log2) :=
            Nat.mul_lt_mul_of_pos_right hgreatest (Nat.two_pow_pos _)
        _ = 2 ^ f.log2 * 2 ^ (52 - f.log2) * 2 := by ring
        _ = 9007199254740992 := by rw [hone]
  refine ⟨?magnitude, by omega, by omega, ?amount⟩
  case magnitude =>
    unfold widened
    rw [if_neg (by decide), if_pos rfl, if_neg hne]
    show (f.log2 + 873) * 4503599627370496 + f * 2 ^ (52 - f.log2) =
      (f.log2 + 874) * 4503599627370496 + _
    omega
  case amount =>
    have hdigits : significand 52 (f.log2 + 874) (f * 2 ^ (52 - f.log2) - 4503599627370496) =
        significand 23 0 f * 2 ^ (52 - f.log2) := by
      unfold significand
      rw [if_neg (by omega), if_pos rfl, Nat.cast_sub hshifted.1]
      push_cast
      norm_num
    refine ofFields_shifted (by decide) (by omega) hdigits ?_
    unfold power
    omega

/-- Any other number keeps its leading bit. -/
theorem widens_normal (he : e < 255) (hne : e ≠ 0) (hf : f < 8388608) :
    Widens s e f (e + 896) (f * 536870912) := by
  refine ⟨?magnitude, by omega, by omega, ?amount⟩
  case magnitude =>
    simp [widened, he.ne, hne]
  case amount =>
    have hdigits : significand 52 (e + 896) (f * 536870912) = significand 23 e f * 2 ^ 29 := by
      unfold significand
      rw [if_neg (by omega), if_neg hne]
      push_cast
      ring
    refine ofFields_shifted (by omega) (by omega) hdigits ?_
    unfold power
    omega

/-- **A binary32 number keeps its amount when it is widened.** -/
theorem amount_ofBinary32 (bits : UInt32) :
    (ofBinary32 bits).amount = Amount.ofBinary32 bits := by
  have hbits : bits.toNat < 4294967296 := bits.toNat_lt
  have hsign : bits.toNat / 2147483648 < 2 := by omega
  have hfraction : bits.toNat % 8388608 < 8388608 := Nat.mod_lt _ (by decide)
  have hfields : ∃ E F, Widens (bits.toNat / 2147483648) (bits.toNat / 8388608 % 256)
      (bits.toNat % 8388608) E F := by
    have hexponent : bits.toNat / 8388608 % 256 < 256 := Nat.mod_lt _ (by decide)
    generalize bits.toNat / 8388608 % 256 = exponent at hexponent
    generalize bits.toNat % 8388608 = fraction at hfraction
    by_cases hgreatest : exponent = 255
    · subst hgreatest
      exact ⟨_, _, widens_greatest hfraction⟩
    · by_cases hleast : exponent = 0
      · subst hleast
        by_cases hnone : fraction = 0
        · subst hnone
          exact ⟨_, _, widens_zero⟩
        · exact ⟨_, _, widens_subnormal hfraction hnone⟩
      · exact ⟨_, _, widens_normal (by omega) hleast hfraction⟩
  obtain ⟨E, F, h⟩ := hfields
  have hwide := amount_of_fields hsign h.exponent_lt h.fraction_lt
  rw [← h.magnitude, h.amount] at hwide
  rw [ofBinary32_eq]
  exact hwide

end Binary64

/-! ## 3. Representations -/

/-- What a number stands for. -/
def Number.amount : Number → Amount
  | .signed n => .finite n.toInt
  | .unsigned n => .finite n.toNat
  | .float x => x.amount

end Sift
