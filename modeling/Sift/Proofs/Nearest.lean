import Mathlib.Algebra.Order.Group.Abs
import Mathlib.Algebra.Order.Ring.Cast
import Mathlib.Algebra.Order.Ring.Rat
import Mathlib.Data.Int.ConditionallyCompleteOrder
import Mathlib.Tactic.Linarith
import Mathlib.Tactic.Positivity
import Sift.Proofs.Amounts

/-!
# The order of binary64 numbers, and the one nearest to an integer

A binary64 number is compared by its bits, and an integer becomes one by cutting its digits. This
file says what both mean for the amounts the numbers stand for:

* `Binary64.compare?_of_amount` -- finite numbers are compared by their amounts. From one place of
  the order to the next the amount grows, over the numbers without a leading bit and over every
  carry into the exponent (`amountAt_strictMono`);
* `Binary64.amount_ofInt` -- an integer becomes the number that stands for the integer rounded to 53
  digits;
* `Binary64.isNearest_ofInt` -- no finite number is nearer to the integer, and of two as near the
  one with an even last bit is taken;
* `Binary64.rounded_error` -- the distance is one part in two to the 53 at most, and up to that
  number there is none;
* `Binary64.nearest_mono` -- the order of integers is kept, but integers beyond 53 digits may share
  the number nearest to them (`eq_of_nearest_eq`, `error_of_nearest_eq`).
-/

namespace Sift

namespace Binary64

open Amount

/-! ## 1. Places in the order -/

/-- The amount of the finite number without a sign that has a magnitude. -/
def size (magnitude : Nat) : ℚ :=
  significand 52 (magnitude / 2 ^ 52) (magnitude % 2 ^ 52) * 2 ^ power 52 11 (magnitude / 2 ^ 52)

/-- The amount of the number at a place of the order. -/
def amountAt (place : ℤ) : ℚ := place.sign * size place.natAbs

theorem size_of_fields {e f : Nat} (hf : f < 2 ^ 52) :
    size (e * 2 ^ 52 + f) = significand 52 e f * 2 ^ power 52 11 e := by
  have hexponent : (e * 2 ^ 52 + f) / 2 ^ 52 = e := by omega
  have hfraction : (e * 2 ^ 52 + f) % 2 ^ 52 = f := by omega
  unfold size
  rw [hexponent, hfraction]

theorem size_zero : size 0 = 0 := by
  simp [size, significand]

/-- **The amount grows with the magnitude.** The next one has one more in the last place of the
    fraction, or an empty fraction after a full one and a greater exponent. -/
theorem size_strictMono : StrictMono size := by
  refine strictMono_nat_of_lt_succ fun b => ?_
  obtain ⟨e, f, hf, rfl⟩ : ∃ e f, f < 2 ^ 52 ∧ b = e * 2 ^ 52 + f :=
    ⟨b / 2 ^ 52, b % 2 ^ 52, by omega, by omega⟩
  have hpos : (0 : ℚ) < 2 ^ power 52 11 e := zpow_pos two_pos _
  rw [size_of_fields hf]
  by_cases hfull : f + 1 < 2 ^ 52
  · have hsucc : significand 52 e f < significand 52 e (f + 1) := by
      unfold significand
      split <;> simp
    rw [Nat.add_assoc, size_of_fields hfull]
    exact mul_lt_mul_of_pos_right hsucc hpos
  · have hcarry : e * 2 ^ 52 + f + 1 = (e + 1) * 2 ^ 52 + 0 := by omega
    obtain rfl : f = 2 ^ 52 - 1 := by omega
    rw [hcarry, size_of_fields (by decide)]
    by_cases hleast : e = 0
    · subst hleast
      refine mul_lt_mul_of_pos_right ?_ hpos
      norm_num [significand]
    · have hpower : power 52 11 (e + 1) = power 52 11 e + 1 := by
        unfold power
        omega
      rw [hpower, zpow_add_one₀ two_ne_zero, mul_comm (2 ^ power 52 11 e) 2, ← mul_assoc]
      refine mul_lt_mul_of_pos_right ?_ hpos
      norm_num [significand, hleast]

theorem amountAt_natCast (b : Nat) : amountAt b = size b := by
  cases b with
  | zero => simp [amountAt, size_zero]
  | succ b =>
    rw [amountAt, Int.natCast_succ, Int.sign_natCast_add_one, Int.cast_one, one_mul]
    rfl

theorem amountAt_neg (place : ℤ) : amountAt (-place) = -amountAt place := by
  simp [amountAt]

theorem abs_amountAt (place : ℤ) : |amountAt place| = size place.natAbs := by
  have hnonneg : 0 ≤ size place.natAbs := by
    rw [← size_zero]
    exact size_strictMono.monotone (Nat.zero_le _)
  rcases place.natAbs_eq with h | h
  · rw [h, amountAt_natCast, Int.natAbs_natCast, abs_of_nonneg hnonneg]
  · rw [h, amountAt_neg, abs_neg, amountAt_natCast, Int.natAbs_neg, Int.natAbs_natCast,
      abs_of_nonneg hnonneg]

/-- **The order of places is the order of amounts.** -/
theorem amountAt_strictMono : StrictMono amountAt := by
  refine strictMono_int_of_lt_succ fun place => ?_
  rcases lt_or_ge place 0 with hneg | hnonneg
  · obtain ⟨b, rfl⟩ : ∃ b : Nat, place = -((b + 1 : Nat) : ℤ) := ⟨(-place - 1).toNat, by omega⟩
    have hsucc : -((b + 1 : Nat) : ℤ) + 1 = -(b : ℤ) := by omega
    rw [hsucc, amountAt_neg, amountAt_neg, amountAt_natCast, amountAt_natCast, neg_lt_neg_iff]
    exact size_strictMono b.lt_succ_self
  · obtain ⟨b, rfl⟩ := Int.eq_ofNat_of_zero_le hnonneg
    rw [← Int.natCast_succ, amountAt_natCast, amountAt_natCast]
    exact size_strictMono b.lt_succ_self

/-- The fields of a number, read off its magnitude. -/
theorem amount_eq (x : Binary64) : x.amount =
    ofFields 52 11 (x.bits.toNat / 2 ^ 63) (x.magnitude / 2 ^ 52) (x.magnitude % 2 ^ 52) := by
  have hexponent : x.bits.toNat / 2 ^ 52 % 2 ^ 11 = x.bits.toNat % 2 ^ 63 / 2 ^ 52 := by omega
  have hfraction : x.bits.toNat % 2 ^ 52 = x.bits.toNat % 2 ^ 63 % 2 ^ 52 := by omega
  unfold amount ofBits
  rw [hexponent, hfraction]
  rfl

/-- The sign takes the amount to the place in the order. -/
theorem amountAt_rank (x : Binary64) :
    amountAt x.rank = (-1) ^ (x.bits.toNat / 2 ^ 63) * size x.magnitude := by
  have hbits : x.bits.toNat < 2 ^ 64 := x.bits.toNat_lt
  have hsign : x.isNegative = true ↔ 2 ^ 63 ≤ x.bits.toNat := decide_eq_true_iff
  unfold rank
  by_cases hneg : 2 ^ 63 ≤ x.bits.toNat
  · have hone : x.bits.toNat / 2 ^ 63 = 1 := by omega
    rw [if_pos (hsign.mpr hneg), amountAt_neg, amountAt_natCast, hone, pow_one, neg_one_mul]
  · have hzero : x.bits.toNat / 2 ^ 63 = 0 := by omega
    rw [if_neg (mt hsign.mp hneg), amountAt_natCast, hzero, pow_zero, one_mul]

/-- **The finite numbers** are those with a magnitude below that of infinity. Their amount is the
    one at their place. -/
theorem amount_eq_finite_iff {x : Binary64} {q : ℚ} :
    x.amount = .finite q ↔ x.magnitude < infinityBits ∧ q = amountAt x.rank := by
  have hmagnitude : x.magnitude < 2 ^ 63 := Nat.mod_lt _ (by decide)
  have hinfinity : infinityBits = 2047 * 2 ^ 52 := rfl
  rw [amount_eq, ofFields, amountAt_rank, size, ← mul_assoc]
  by_cases hgreatest : x.magnitude / 2 ^ 52 = 2 ^ 11 - 1
  · rw [if_pos hgreatest]
    constructor
    · intro h
      split at h <;> cases h
    · rintro ⟨hlt, _⟩
      omega
  · rw [if_neg hgreatest, Amount.finite.injEq, eq_comm]
    exact iff_and_self.mpr fun _ => by omega

/-- **Finite numbers are compared by their amounts.** -/
theorem compare?_of_amount {x y : Binary64} {p q : ℚ} (hx : x.amount = .finite p)
    (hy : y.amount = .finite q) : x.compare? y = some (compare p q) := by
  obtain ⟨hfinite, rfl⟩ := amount_eq_finite_iff.mp hx
  obtain ⟨hfinite', rfl⟩ := amount_eq_finite_iff.mp hy
  have hnumbers : (x.isNaN || y.isNaN) = false := by
    simp only [isNaN, Bool.or_eq_false_iff, decide_eq_false_iff_not]
    omega
  unfold compare?
  rw [if_neg (by rw [hnumbers]; decide), ← cmp_eq_compare, ← cmp_eq_compare,
    amountAt_strictMono.cmp_map_eq]

/-! ## 2. Rounding -/

variable {n s : Nat}

theorem shiftRounded_eq (n s : Nat) : shiftRounded n s =
    if 2 ^ s < 2 * (n % 2 ^ s) ∨ (2 * (n % 2 ^ s) = 2 ^ s ∧ n / 2 ^ s % 2 = 1) then n / 2 ^ s + 1
    else n / 2 ^ s := rfl

/-- The multiple of a power of two that a rounded quotient stands for. -/
def multiple (n s : Nat) : Nat := shiftRounded n s * 2 ^ s

/-- **A rounded quotient is off by half a unit at most**, and is even where it is off by a half. -/
theorem multiple_spec (n s : Nat) :
    2 * |(multiple n s - n : ℚ)| ≤ 2 ^ s ∧
      (2 * |(multiple n s - n : ℚ)| = 2 ^ s → shiftRounded n s % 2 = 0) := by
  obtain ⟨hlow, hhigh, heven⟩ : 2 * n ≤ 2 * multiple n s + 2 ^ s ∧
      2 * multiple n s ≤ 2 * n + 2 ^ s ∧
      (2 * n = 2 * multiple n s + 2 ^ s ∨ 2 * multiple n s = 2 * n + 2 ^ s →
        shiftRounded n s % 2 = 0) := by
    have hsplit : n / 2 ^ s * 2 ^ s + n % 2 ^ s = n := Nat.div_add_mod' n (2 ^ s)
    have hrest : n % 2 ^ s < 2 ^ s := Nat.mod_lt _ (Nat.two_pow_pos s)
    have hsucc : (n / 2 ^ s + 1) * 2 ^ s = n / 2 ^ s * 2 ^ s + 2 ^ s := Nat.succ_mul _ _
    rw [multiple, shiftRounded_eq]
    split
    · rw [hsucc]
      omega
    · omega
  have hlow' : (2 * n : ℚ) ≤ 2 * multiple n s + 2 ^ s := by exact_mod_cast hlow
  have hhigh' : (2 * multiple n s : ℚ) ≤ 2 * n + 2 ^ s := by exact_mod_cast hhigh
  rcases abs_cases (multiple n s - n : ℚ) with ⟨habs, _⟩ | ⟨habs, _⟩ <;> rw [habs]
  · refine ⟨by linarith, fun h => heven (.inr ?_)⟩
    have h' : (2 * multiple n s : ℚ) = 2 * n + 2 ^ s := by linarith
    exact_mod_cast h'
  · refine ⟨by linarith, fun h => heven (.inl ?_)⟩
    have h' : (2 * n : ℚ) = 2 * multiple n s + 2 ^ s := by linarith
    exact_mod_cast h'

/-- **No other multiple is nearer** than that of the rounded quotient, and if one is as near the
    quotient is even. -/
theorem multiple_nearest (n s j : Nat) :
    |(multiple n s - n : ℚ)| ≤ |(j * 2 ^ s - n : ℚ)| ∧
      ((j * 2 ^ s : ℚ) ≠ multiple n s → |(j * 2 ^ s - n : ℚ)| = |(multiple n s - n : ℚ)| →
        shiftRounded n s % 2 = 0) := by
  obtain ⟨hhalf, heven⟩ := multiple_spec n s
  by_cases hsame : (j * 2 ^ s : ℚ) = multiple n s
  · exact ⟨by rw [hsame], fun hne => absurd hsame hne⟩
  · -- another multiple is a whole unit away
    have hunit : (2 ^ s : ℚ) ≤ |(j * 2 ^ s - multiple n s : ℚ)| := by
      have hne : (j : ℤ) - shiftRounded n s ≠ 0 := by
        intro h
        obtain rfl : j = shiftRounded n s := by omega
        exact hsame (by rw [multiple, Nat.cast_mul, Nat.cast_pow, Nat.cast_ofNat])
      have hone : (1 : ℚ) ≤ |(j : ℚ) - shiftRounded n s| := by
        exact_mod_cast Int.one_le_abs hne
      rw [multiple, Nat.cast_mul, Nat.cast_pow, Nat.cast_ofNat, ← sub_mul, abs_mul,
        abs_of_pos (by positivity : (0 : ℚ) < 2 ^ s)]
      exact le_mul_of_one_le_left (by positivity) hone
    have htriangle : |(j * 2 ^ s - multiple n s : ℚ)| ≤
        |(j * 2 ^ s - n : ℚ)| + |(multiple n s - n : ℚ)| := by
      rw [abs_sub_comm (multiple n s : ℚ) n]
      exact abs_sub_le _ _ _
    refine ⟨by linarith, fun _ h => heven ?_⟩
    exact le_antisymm hhalf (by linarith)

/-- A multiple is kept. -/
theorem multiple_of_eq {j : Nat} (h : n = j * 2 ^ s) : multiple n s = n := by
  have hnearest := (multiple_nearest n s j).1
  have hexact : (j * 2 ^ s - n : ℚ) = 0 := by
    rw [h]
    push_cast
    ring
  rw [hexact, abs_zero] at hnearest
  exact_mod_cast sub_eq_zero.mp (abs_nonpos_iff.mp hnearest)

/-- The natural number that the number nearest to `n` stands for. -/
def rounded (n : Nat) : Nat := multiple n (n.log2 - 52)

/-- A number that fits into the significand is kept. -/
theorem rounded_of_le (h : n ≤ 2 ^ 53) : rounded n = n := by
  rcases h.lt_or_eq with hlt | rfl
  · have hlog : n.log2 - 52 = 0 := by
      by_cases hzero : n = 0
      · subst hzero
        rfl
      · have := (Nat.log2_lt hzero).mpr hlt
        omega
    rw [rounded, hlog]
    exact multiple_of_eq (j := n) (by rw [pow_zero, mul_one])
  · exact multiple_of_eq (j := 2 ^ 52) (by decide)

/-- The size of a number with a leading bit, by its significand. A significand of one bit more
    carries into the exponent. -/
theorem size_of_significand {e m : Nat} (hlow : 2 ^ 52 ≤ m) (hhigh : m ≤ 2 ^ 53) :
    size ((e + 1022) * 2 ^ 52 + m) = m * 2 ^ ((e : ℤ) - 52) := by
  rcases hhigh.lt_or_eq with hlt | rfl
  · have hfields : (e + 1022) * 2 ^ 52 + m = (e + 1023) * 2 ^ 52 + (m - 2 ^ 52) := by omega
    have hpower : power 52 11 (e + 1023) = e - 52 := by
      unfold power
      omega
    rw [hfields, size_of_fields (by omega), hpower, significand, if_neg (by omega),
      Nat.cast_sub hlow]
    push_cast
    ring
  · have hfields : (e + 1022) * 2 ^ 52 + 2 ^ 53 = (e + 1024) * 2 ^ 52 + 0 := by omega
    have hpower : power 52 11 (e + 1024) = (e - 52) + 1 := by
      unfold power
      omega
    rw [hfields, size_of_fields (by decide), hpower, significand, if_neg (by omega),
      zpow_add_one₀ two_ne_zero]
    push_cast
    ring

/-- The significand of the number nearest to `n`, its leading bit included. -/
def significandOf (n : Nat) : Nat :=
  if n.log2 ≤ 52 then n * 2 ^ (52 - n.log2) else shiftRounded n (n.log2 - 52)

theorem bitsOfNat_eq (hne : n ≠ 0) : bitsOfNat n = (n.log2 + 1022) * 2 ^ 52 + significandOf n :=
  if_neg hne

/-- The significand has 53 bits, or is the least number of 54. -/
theorem significandOf_bounds (hne : n ≠ 0) :
    2 ^ 52 ≤ significandOf n ∧ significandOf n ≤ 2 ^ 53 := by
  have hleast : 2 ^ n.log2 ≤ n := Nat.log2_self_le hne
  have hgreatest : n < 2 ^ (n.log2 + 1) := Nat.lt_log2_self
  unfold significandOf
  split
  · rename_i hfits
    have hone : 2 ^ n.log2 * 2 ^ (52 - n.log2) = 2 ^ 52 := by
      rw [← pow_add, Nat.add_sub_cancel' hfits]
    have htwo : 2 ^ (n.log2 + 1) * 2 ^ (52 - n.log2) = 2 ^ 53 := by
      rw [pow_succ', mul_assoc, hone]
      rfl
    rw [← hone, ← htwo]
    exact ⟨Nat.mul_le_mul_right _ hleast, Nat.mul_le_mul_right _ hgreatest.le⟩
  · rename_i hwide
    have hone : 2 ^ 52 * 2 ^ (n.log2 - 52) = 2 ^ n.log2 := by
      rw [← pow_add, Nat.add_sub_cancel' (Nat.le_of_not_le hwide)]
    have htwo : 2 ^ 53 * 2 ^ (n.log2 - 52) = 2 ^ (n.log2 + 1) := by
      rw [pow_succ' 2 n.log2, ← hone, ← mul_assoc]
      rfl
    have hlow : 2 ^ 52 ≤ n / 2 ^ (n.log2 - 52) := by
      rw [Nat.le_div_iff_mul_le (Nat.two_pow_pos _), hone]
      exact hleast
    have hhigh : n / 2 ^ (n.log2 - 52) < 2 ^ 53 := by
      rw [Nat.div_lt_iff_lt_mul (Nat.two_pow_pos _), htwo]
      exact hgreatest
    rw [shiftRounded_eq]
    split <;> omega

/-- **The bits of the number nearest to `n`** are those of what `n` is rounded to. -/
theorem size_bitsOfNat (n : Nat) : size (bitsOfNat n) = rounded n := by
  by_cases hne : n = 0
  · subst hne
    exact size_zero
  · obtain ⟨hlow, hhigh⟩ := significandOf_bounds hne
    rw [bitsOfNat_eq hne, size_of_significand hlow hhigh, rounded]
    unfold significandOf
    split
    · rename_i hfits
      rw [Nat.sub_eq_zero_of_le hfits, multiple_of_eq (j := n) (by rw [pow_zero, mul_one]),
        Nat.cast_mul, Nat.cast_pow, Nat.cast_ofNat, mul_assoc, ← zpow_natCast,
        ← zpow_add₀ two_ne_zero, Nat.cast_sub hfits]
      norm_num
    · rename_i hwide
      rw [multiple, Nat.cast_mul, Nat.cast_pow, Nat.cast_ofNat, ← zpow_natCast,
        Nat.cast_sub (Nat.le_of_not_le hwide)]
      norm_num

/-- A size of so many bits is a multiple of the power of two that its last place stands for. -/
theorem exists_multiple_of_le_size {b : Nat} (h : (2 ^ (s + 52) : ℚ) ≤ size b) :
    ∃ j : Nat, size b = j * 2 ^ s := by
  -- the exponent is that of the bound at least
  have hbound : size ((s + 1075) * 2 ^ 52 + 0) = 2 ^ (s + 52) := by
    have hpower : power 52 11 (s + 1075) = s := by
      unfold power
      omega
    rw [size_of_fields (by decide), hpower, significand, if_neg (by omega), pow_add]
    push_cast
    rw [zpow_natCast]
    ring
  rw [← hbound, size_strictMono.le_iff_le] at h
  obtain ⟨e, f, hf, rfl⟩ : ∃ e f, f < 2 ^ 52 ∧ b = (s + e + 1075) * 2 ^ 52 + f :=
    ⟨b / 2 ^ 52 - s - 1075, b % 2 ^ 52, by omega, by omega⟩
  have hpower : power 52 11 (s + e + 1075) = e + s := by
    unfold power
    omega
  refine ⟨(2 ^ 52 + f) * 2 ^ e, ?_⟩
  rw [size_of_fields hf, hpower, significand, if_neg (by omega), zpow_add₀ two_ne_zero,
    zpow_natCast, zpow_natCast, ← mul_assoc]
  push_cast
  rfl

/-- **No size is nearer** to `n` than the rounded one, and if one is as near the bits are even. -/
theorem rounded_nearest (n b : Nat) :
    |(rounded n - n : ℚ)| ≤ |size b - n| ∧
      (size b ≠ rounded n → |size b - n| = |(rounded n - n : ℚ)| → bitsOfNat n % 2 = 0) := by
  by_cases hexact : n ≤ 2 ^ 53
  · rw [rounded_of_le hexact, sub_self, abs_zero]
    refine ⟨abs_nonneg _, fun hne h => ?_⟩
    exact absurd (sub_eq_zero.mp (abs_eq_zero.mp h)) hne
  · have hne : n ≠ 0 := by
      rintro rfl
      exact hexact (Nat.zero_le _)
    have hwide : 53 ≤ n.log2 := (Nat.le_log2 hne).mpr (by omega)
    obtain ⟨s, hs⟩ : ∃ s, n.log2 = s + 52 := ⟨n.log2 - 52, by omega⟩
    have hleast : (2 ^ (s + 52) : ℚ) ≤ n := by
      rw [← hs]
      exact_mod_cast Nat.log2_self_le hne
    have hrounded : rounded n = multiple n s := by rw [rounded, hs, Nat.add_sub_cancel]
    have heven : shiftRounded n s % 2 = 0 → bitsOfNat n % 2 = 0 := by
      intro h
      have hsignificand : significandOf n = shiftRounded n s := by
        rw [significandOf, if_neg (by omega), hs, Nat.add_sub_cancel]
      rw [bitsOfNat_eq hne, hsignificand]
      omega
    rw [hrounded]
    rcases lt_or_ge (size b) (2 ^ (s + 52)) with hless | hmore
    · -- the least number of as many bits as `n` is between them
      have hbetween := (multiple_nearest n s (2 ^ 52)).1
      have hpower : ((2 ^ 52 : Nat) * 2 ^ s : ℚ) = 2 ^ (s + 52) := by
        push_cast
        ring
      have hbelow : |(2 ^ (s + 52) - n : ℚ)| = n - 2 ^ (s + 52) := by
        rw [abs_sub_comm, abs_of_nonneg (by linarith)]
      have hfar : |size b - n| = n - size b := by
        rw [abs_sub_comm, abs_of_nonneg (by linarith)]
      rw [hpower, hbelow] at hbetween
      rw [hfar]
      exact ⟨by linarith, fun _ h => absurd h (by linarith)⟩
    · obtain ⟨j, hj⟩ := exists_multiple_of_le_size hmore
      rw [hj]
      exact (multiple_nearest n s j).imp_right fun h hne' heq => heven (h hne' heq)

/-- The rounded number is off by one part in two to the 53 at most. -/
theorem rounded_error (n : Nat) : |(rounded n - n : ℚ)| * 2 ^ 53 ≤ n := by
  by_cases hexact : n ≤ 2 ^ 53
  · rw [rounded_of_le hexact, sub_self, abs_zero, zero_mul]
    exact n.cast_nonneg
  · have hne : n ≠ 0 := by omega
    have hwide : 53 ≤ n.log2 := (Nat.le_log2 hne).mpr (by omega)
    have hhalf := (multiple_spec n (n.log2 - 52)).1
    have hleast : (2 ^ (n.log2 - 52) * 2 ^ 52 : ℚ) ≤ n := by
      rw [← pow_add, Nat.sub_add_cancel (by omega)]
      exact_mod_cast Nat.log2_self_le hne
    rw [rounded]
    linarith

/-! ## 3. The number nearest to an integer -/

/-- The integer that the number nearest to `n` stands for. -/
def nearest (n : ℤ) : ℤ := if n < 0 then -(rounded n.natAbs : ℤ) else rounded n.natAbs

theorem bitsOfNat_lt {n : Nat} (h : n < 2 ^ 64) : bitsOfNat n < infinityBits := by
  have hinfinity : infinityBits = 2047 * 2 ^ 52 := rfl
  by_cases hne : n = 0
  · subst hne
    decide
  · have hlog : n.log2 < 64 := (Nat.log2_lt hne).mpr h
    have hhigh := (significandOf_bounds hne).2
    rw [bitsOfNat_eq hne]
    omega

theorem bits_ofInt {n : ℤ} (h : n.natAbs < 2 ^ 64) :
    (ofInt n).bits.toNat = (if n < 0 then 2 ^ 63 else 0) + bitsOfNat n.natAbs := by
  have hlt := bitsOfNat_lt h
  have hinfinity : infinityBits = 2047 * 2 ^ 52 := rfl
  refine UInt64.toNat_ofNat_of_lt ?_
  show (if n < 0 then 2 ^ 63 else 0) + bitsOfNat n.natAbs < 2 ^ 64
  split <;> omega

/-- **An integer becomes the number that stands for what it is rounded to.** -/
theorem amount_ofInt {n : ℤ} (h : n.natAbs < 2 ^ 64) : (ofInt n).amount = .finite (nearest n) := by
  have hlt := bitsOfNat_lt h
  have hinfinity : infinityBits = 2047 * 2 ^ 52 := rfl
  have hbits := bits_ofInt h
  refine amount_eq_finite_iff.mpr ⟨?finite, ?amount⟩
  case finite =>
    show (ofInt n).bits.toNat % 2 ^ 63 < infinityBits
    rw [hbits]
    split <;> omega
  case amount =>
    have hmagnitude : (ofInt n).magnitude = bitsOfNat n.natAbs := by
      show (ofInt n).bits.toNat % 2 ^ 63 = bitsOfNat n.natAbs
      rw [hbits]
      split <;> omega
    rw [amountAt_rank, hmagnitude, size_bitsOfNat, hbits, nearest]
    by_cases hneg : n < 0
    · have hone : (2 ^ 63 + bitsOfNat n.natAbs) / 2 ^ 63 = 1 := by omega
      rw [if_pos hneg, if_pos hneg, hone, Int.cast_neg, Int.cast_natCast, pow_one, neg_one_mul]
    · have hzero : (0 + bitsOfNat n.natAbs) / 2 ^ 63 = 0 := by omega
      rw [if_neg hneg, if_neg hneg, hzero, Int.cast_natCast, pow_zero, one_mul]

/-- The distance to the nearest number does not depend on the sign. -/
theorem abs_nearest_sub (n : ℤ) :
    |(nearest n - n : ℚ)| = |(rounded n.natAbs - n.natAbs : ℚ)| := by
  unfold nearest
  by_cases hneg : n < 0
  · have hn : (n : ℚ) = -(n.natAbs : ℚ) := by
      rw [← Int.cast_natCast, Int.ofNat_natAbs_of_nonpos hneg.le, Int.cast_neg, neg_neg]
    rw [if_pos hneg, Int.cast_neg, Int.cast_natCast, hn, ← neg_sub', abs_neg]
  · have hn : (n : ℚ) = (n.natAbs : ℚ) := by
      rw [← Int.cast_natCast, Int.natAbs_of_nonneg (not_lt.mp hneg)]
    rw [if_neg hneg, Int.cast_natCast, hn]

theorem abs_nearest (n : ℤ) : |(nearest n : ℚ)| = rounded n.natAbs := by
  unfold nearest
  split <;> simp

theorem nearest_of_le {n : ℤ} (h : n.natAbs ≤ 2 ^ 53) : nearest n = n := by
  unfold nearest
  rw [rounded_of_le h]
  split <;> omega

/-- A number is a nearest one to an integer. It is finite, no finite number is nearer, and if
    another one is as near its last bit is zero. -/
structure IsNearest (x : Binary64) (n : ℤ) : Prop where
  finite : ∃ q, x.amount = .finite q
  le : ∀ {q p : ℚ} {y : Binary64}, x.amount = .finite q → y.amount = .finite p →
    |q - n| ≤ |p - n|
  even : ∀ {q p : ℚ} {y : Binary64}, x.amount = .finite q → y.amount = .finite p → p ≠ q →
    |p - n| = |q - n| → x.bits.toNat % 2 = 0

/-- **An integer becomes the nearest binary64 number**, and of two the one with an even last bit. -/
theorem isNearest_ofInt {n : ℤ} (h : n.natAbs < 2 ^ 64) : (ofInt n).IsNearest n := by
  have hamount := amount_ofInt h
  -- an amount is as far away from the integer as its size is from that of the integer, or farther
  have hsize : ∀ {p : ℚ} {y : Binary64}, y.amount = .finite p →
      ∃ b, size b = |p| ∧ |size b - n.natAbs| ≤ |p - n| := by
    intro p y hy
    obtain ⟨_, rfl⟩ := amount_eq_finite_iff.mp hy
    refine ⟨y.rank.natAbs, (abs_amountAt _).symm, ?_⟩
    rw [← abs_amountAt, Nat.cast_natAbs, Int.cast_abs]
    exact abs_abs_sub_abs_le _ _
  refine ⟨⟨_, hamount⟩, fun hx hy => ?le, fun {q p y} hx hy hne htie => ?even⟩
  case le =>
    cases hamount.symm.trans hx
    obtain ⟨b, _, hfar⟩ := hsize hy
    rw [abs_nearest_sub]
    exact (rounded_nearest _ b).1.trans hfar
  case even =>
    cases hamount.symm.trans hx
    obtain ⟨b, hb, hfar⟩ := hsize hy
    obtain ⟨hnearest, heven⟩ := rounded_nearest n.natAbs b
    have hbits : (ofInt n).bits.toNat % 2 = bitsOfNat n.natAbs % 2 := by
      rw [bits_ofInt h]
      split <;> omega
    rw [hbits]
    refine heven (fun hsame => hne ?_)
      (le_antisymm (hfar.trans_eq (htie.trans (abs_nearest_sub n))) hnearest)
    -- of the same size with the other sign it is as near to zero only, which has no sign
    have hzero : (nearest n : ℚ) = 0 → p = nearest n := by
      intro h0
      have hp : |p| = |(nearest n : ℚ)| := by rw [← hb, hsame, abs_nearest]
      rw [h0, abs_zero, abs_eq_zero] at hp
      rw [hp, h0]
    rcases abs_eq_abs.mp (hb.symm.trans (hsame.trans (abs_nearest n).symm)) with heq | hneg
    · exact heq
    · rw [hneg] at htie
      rcases abs_eq_abs.mp htie with h | h
      · exact hzero (by linarith)
      · have hn : (n : ℚ) = 0 := by linarith
        refine hzero ?_
        rw [Int.cast_eq_zero.mp hn]
        rfl

/-! ## 4. The order of integers and of the numbers nearest to them -/

variable {m n : ℤ}

/-- Where the greater of two amounts is as near as the other one, the middle is not above. -/
theorem add_le_of_nearer {a b x : ℚ} (hab : a < b) (h : |b - x| ≤ |a - x|) : a + b ≤ 2 * x := by
  rcases abs_cases (b - x) with ⟨hb, _⟩ | ⟨hb, _⟩ <;>
    rcases abs_cases (a - x) with ⟨ha, _⟩ | ⟨ha, _⟩ <;> linarith

theorem le_add_of_nearer {a b x : ℚ} (hab : a < b) (h : |a - x| ≤ |b - x|) : 2 * x ≤ a + b := by
  rcases abs_cases (b - x) with ⟨hb, _⟩ | ⟨hb, _⟩ <;>
    rcases abs_cases (a - x) with ⟨ha, _⟩ | ⟨ha, _⟩ <;> linarith

/-- **The order of integers is kept** by the numbers nearest to them, not always strictly. -/
theorem nearest_mono (hm : m.natAbs < 2 ^ 64) (hn : n.natAbs < 2 ^ 64) (h : m ≤ n) :
    nearest m ≤ nearest n := by
  rcases h.lt_or_eq with hlt | rfl
  · by_contra hreversed
    have hab : (nearest n : ℚ) < nearest m := by exact_mod_cast not_le.mp hreversed
    have hbelow := add_le_of_nearer hab
      ((isNearest_ofInt hm).le (amount_ofInt hm) (amount_ofInt hn))
    have habove := le_add_of_nearer hab
      ((isNearest_ofInt hn).le (amount_ofInt hn) (amount_ofInt hm))
    have hlt' : (m : ℚ) < n := by exact_mod_cast hlt
    linarith
  · exact le_rfl

/-- An integer that fits into the significand shares its nearest number with no other one. -/
theorem eq_of_nearest_eq (hm : m.natAbs < 2 ^ 53) (hn : n.natAbs < 2 ^ 64)
    (h : nearest m = nearest n) : m = n := by
  rw [nearest_of_le hm.le] at h
  rcases lt_trichotomy m n with hlt | heq | hgt
  · have hnext := nearest_mono (m := m + 1) (by omega) hn (by omega)
    rw [nearest_of_le (by omega)] at hnext
    omega
  · exact heq
  · have hprev := nearest_mono (n := m - 1) hn (by omega) (by omega)
    rw [nearest_of_le (n := m - 1) (by omega)] at hprev
    omega

/-- **Integers with one nearest number** differ by two parts in two to the 53 at most. -/
theorem error_of_nearest_eq (h : nearest m = nearest n) :
    (m - n).natAbs * 2 ^ 53 ≤ m.natAbs + n.natAbs := by
  have hm := rounded_error m.natAbs
  have hn := rounded_error n.natAbs
  rw [← abs_nearest_sub] at hm hn
  have htriangle : |(m - n : ℚ)| ≤ |(nearest m - m : ℚ)| + |(nearest n - n : ℚ)| := by
    rw [h, abs_sub_comm (nearest n : ℚ) m]
    exact abs_sub_le _ _ _
  have hbound : |(m - n : ℚ)| * 2 ^ 53 ≤ (m.natAbs : ℚ) + n.natAbs := by linarith
  have hcast : (((m - n).natAbs : Nat) : ℚ) = |(m - n : ℚ)| := by
    rw [Nat.cast_natAbs, Int.cast_abs, Int.cast_sub]
  rw [← hcast] at hbound
  exact_mod_cast hbound

end Binary64

end Sift
