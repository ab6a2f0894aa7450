import Sift.Proofs.Conformance
import Sift.Proofs.Nearest

/-!
# Integers in two representations

An integer is kept as a signed or as an unsigned number. Two of one representation are compared
exactly, two of different ones as the binary64 numbers nearest to them. So two ids of more than 53
digits may be found equal that are not.

* `Number.Merged` -- two numbers that differ and become the same binary64 number;
* `Number.compare?_integers` -- the comparison of two integers is that of their values unless they
  are merged, and how far from zero and how close to each other merged integers are;
* `Number.beq_iff` -- equality is the comparison within one representation;
* `Number.beq_consistent_iff` -- so equality and order agree on two integers exactly when they are
  in one representation, or when they differ and are not merged.
-/

namespace Sift

namespace Number

open Binary64

/-- The integer that a number is, if it is kept as one. -/
def integer? : Number → Option ℤ
  | .signed n => some n.toInt
  | .unsigned n => some n.toNat
  | .float _ => none

/-- Two numbers that are not equal and become the same binary64 number before they are compared. -/
structure Merged (x y : Number) : Prop where
  classes : x.numberClass ≠ y.numberClass
  amounts : x.amount ≠ y.amount
  same : x.toBinary64.amount = y.toBinary64.amount

variable {x y : Number} {m n : ℤ}

theorem integer?_spec (h : x.integer? = some m) :
    x.amount = .finite m ∧ x.toBinary64 = .ofInt m ∧ m.natAbs < 2 ^ 64 := by
  cases x with
  | signed a =>
    cases h
    have hlow := a.le_toInt
    have hhigh := a.toInt_lt
    exact ⟨rfl, rfl, by omega⟩
  | unsigned a =>
    cases h
    exact ⟨rfl, rfl, a.toNat_lt⟩
  | float a => cases h

/-- Integers in one representation are compared exactly. -/
theorem compare?_of_class_eq (hx : x.integer? = some m) (hy : y.integer? = some n)
    (h : x.numberClass = y.numberClass) : x.compare? y = some (compare m n) := by
  cases x with
  | signed a =>
    cases y with
    | signed b =>
      cases hx
      cases hy
      rfl
    | _ => cases h
  | unsigned a =>
    cases y with
    | unsigned b =>
      cases hx
      cases hy
      rw [← cmp_eq_compare, (Nat.strictMono_cast (α := ℤ)).cmp_map_eq, cmp_eq_compare]
      rfl
    | _ => cases h
  | float a => cases hx

/-- **Integers in two representations are compared by the numbers nearest to them.** -/
theorem compare?_of_class_ne (hx : x.integer? = some m) (hy : y.integer? = some n)
    (h : x.numberClass ≠ y.numberClass) :
    x.compare? y = some (compare (nearest m) (nearest n)) := by
  obtain ⟨_, hfloat, hm⟩ := integer?_spec hx
  obtain ⟨_, hfloat', hn⟩ := integer?_spec hy
  have hcompare : x.compare? y = x.toBinary64.compare? y.toBinary64 := by
    cases x with
    | signed a =>
      cases y with
      | signed b => exact absurd rfl h
      | _ => rfl
    | unsigned a =>
      cases y with
      | unsigned b => exact absurd rfl h
      | _ => rfl
    | float a => cases hx
  rw [hcompare, hfloat, hfloat', compare?_of_amount (amount_ofInt hm) (amount_ofInt hn),
    ← cmp_eq_compare, (Int.cast_strictMono (R := ℚ)).cmp_map_eq, cmp_eq_compare]

theorem merged_iff (hx : x.integer? = some m) (hy : y.integer? = some n) :
    x.Merged y ↔ x.numberClass ≠ y.numberClass ∧ m ≠ n ∧ nearest m = nearest n := by
  obtain ⟨hamount, hfloat, hm⟩ := integer?_spec hx
  obtain ⟨hamount', hfloat', hn⟩ := integer?_spec hy
  have hamounts : x.amount ≠ y.amount ↔ m ≠ n := by
    rw [hamount, hamount', Ne, Amount.finite.injEq, Int.cast_inj]
  have hsame : x.toBinary64.amount = y.toBinary64.amount ↔ nearest m = nearest n := by
    rw [hfloat, hfloat', amount_ofInt hm, amount_ofInt hn, Amount.finite.injEq, Int.cast_inj]
  rw [← hamounts, ← hsame]
  exact ⟨fun ⟨h, h', h''⟩ => ⟨h, h', h''⟩, fun ⟨h, h', h''⟩ => ⟨h, h', h''⟩⟩

/-- **The comparison of two integers is exact, or finds them equal** because they are merged. -/
theorem compare?_cases (hx : x.integer? = some m) (hy : y.integer? = some n) :
    (¬ x.Merged y ∧ x.compare? y = some (compare m n)) ∨
      (x.Merged y ∧ x.compare? y = some .eq) := by
  rw [merged_iff hx hy]
  by_cases hclass : x.numberClass = y.numberClass
  · exact .inl ⟨fun h => h.1 hclass, compare?_of_class_eq hx hy hclass⟩
  · obtain ⟨_, _, hm⟩ := integer?_spec hx
    obtain ⟨_, _, hn⟩ := integer?_spec hy
    rw [compare?_of_class_ne hx hy hclass]
    by_cases hnearest : nearest m = nearest n
    · by_cases heq : m = n
      · subst heq
        have hself : compare m m = compare (nearest m) (nearest m) := by
          rw [compare_eq_iff_eq.mpr rfl, compare_eq_iff_eq.mpr rfl]
        exact .inl ⟨fun h => h.2.1 rfl, congrArg some hself.symm⟩
      · exact .inr ⟨⟨hclass, heq, hnearest⟩, by rw [hnearest, compare_eq_iff_eq.mpr rfl]⟩
    · refine .inl ⟨fun h => hnearest h.2.2, congrArg some ?_⟩
      -- two different numbers are ordered as the integers are
      rcases lt_trichotomy m n with hlt | rfl | hgt
      · have hlt' := lt_of_le_of_ne (nearest_mono hm hn hlt.le) hnearest
        rw [compare_lt_iff_lt.mpr hlt, compare_lt_iff_lt.mpr hlt']
      · exact absurd rfl hnearest
      · have hgt' := lt_of_le_of_ne (nearest_mono hn hm hgt.le) (Ne.symm hnearest)
        rw [compare_gt_iff_gt.mpr hgt, compare_gt_iff_gt.mpr hgt']

theorem Merged.symm (h : x.Merged y) : y.Merged x :=
  ⟨h.classes.symm, h.amounts.symm, h.same.symm⟩

/-- **Integers that are merged are far from zero and close to each other.** -/
theorem Merged.bounds (hx : x.integer? = some m) (hy : y.integer? = some n) (h : x.Merged y) :
    2 ^ 53 ≤ m.natAbs ∧ 2 ^ 53 ≤ n.natAbs ∧
      (m - n).natAbs * 2 ^ 53 ≤ m.natAbs + n.natAbs := by
  obtain ⟨_, _, hm⟩ := integer?_spec hx
  obtain ⟨_, _, hn⟩ := integer?_spec hy
  obtain ⟨_, hne, hnearest⟩ := (merged_iff hx hy).mp h
  refine ⟨?_, ?_, error_of_nearest_eq hnearest⟩
  · by_contra hfits
    exact hne (eq_of_nearest_eq (by omega) hn hnearest)
  · by_contra hfits
    exact hne (eq_of_nearest_eq (by omega) hm hnearest.symm).symm

/-- **How integers are compared across representations.** There is an order between any two of them,
    and it turns round with them. It is that of the integers, unless the two are merged, and then
    they are found equal. Only integers in two representations are merged, which need 53 digits at
    least and are apart by one part in two to the 53 of both together at most: each of them is
    compared as the binary64 number nearest to it. -/
theorem compare?_integers (hx : x.integer? = some m) (hy : y.integer? = some n) :
    (∃ o, x.compare? y = some o ∧ y.compare? x = some o.swap) ∧
    (x.compare? y = some (compare m n) ↔ ¬ x.Merged y) ∧
    (x.Merged y → x.compare? y = some .eq ∧ 2 ^ 53 ≤ m.natAbs ∧ 2 ^ 53 ≤ n.natAbs ∧
      (m - n).natAbs * 2 ^ 53 ≤ m.natAbs + n.natAbs) ∧
    x.toBinary64.IsNearest m ∧ y.toBinary64.IsNearest n := by
  obtain ⟨_, hfloat, hm⟩ := integer?_spec hx
  obtain ⟨_, hfloat', hn⟩ := integer?_spec hy
  refine ⟨?total, ?exact, fun hmerged => ?merged, ?nearest, ?nearest'⟩
  case total =>
    rcases compare?_cases hx hy with ⟨hapart, h⟩ | ⟨hmerged, h⟩
    · rcases compare?_cases hy hx with ⟨_, h'⟩ | ⟨hmerged', _⟩
      · exact ⟨_, h, by rw [h', Std.OrientedOrd.eq_swap (a := n) (b := m)]⟩
      · exact absurd hmerged'.symm hapart
    · rcases compare?_cases hy hx with ⟨hapart', _⟩ | ⟨_, h'⟩
      · exact absurd hmerged.symm hapart'
      · exact ⟨_, h, h'⟩
  case exact =>
    rcases compare?_cases hx hy with ⟨hapart, h⟩ | ⟨hmerged, h⟩
    · exact iff_of_true h hapart
    · refine iff_of_false (fun hexact => ?_) (not_not_intro hmerged)
      rw [h, Option.some.injEq, eq_comm, compare_eq_iff_eq] at hexact
      exact ((merged_iff hx hy).mp hmerged).2.1 hexact
  case merged =>
    rcases compare?_cases hx hy with ⟨hapart, _⟩ | ⟨_, h⟩
    · exact absurd hmerged hapart
    · exact ⟨h, hmerged.bounds hx hy⟩
  case nearest =>
    rw [hfloat]
    exact isNearest_ofInt hm
  case nearest' =>
    rw [hfloat']
    exact isNearest_ofInt hn

/-- The ends of both ranges are ordered as integers are; next to each other in the middle of the
    unsigned range two integers may be merged. -/
theorem compare?_integers_extremes :
    let least := signed (-9223372036854775808)
    let greatest := unsigned 18446744073709551615
    least.integer? = some (-9223372036854775808) ∧
      greatest.integer? = some 18446744073709551615 ∧ ¬ least.Merged greatest ∧
      least.compare? greatest = some .lt ∧
      (signed 9223372036854775807).Merged (unsigned 9223372036854775808) ∧
      (signed 9223372036854775807).compare? (unsigned 9223372036854775808) = some .eq := by
  intro least greatest
  have hleast : least.integer? = some (-9223372036854775808) := rfl
  have hgreatest : greatest.integer? = some 18446744073709551615 := rfl
  have hcompare : least.compare? greatest =
      some (compare (-9223372036854775808 : ℤ) 18446744073709551615) := by decide +kernel
  obtain ⟨_, hexact, _⟩ := compare?_integers hleast hgreatest
  have hhigh : (signed 9223372036854775807).integer? = some 9223372036854775807 := rfl
  have hnext : (unsigned 9223372036854775808).integer? = some 9223372036854775808 := rfl
  have hequal :
      (signed 9223372036854775807).compare? (unsigned 9223372036854775808) = some .eq := by
    decide +kernel
  have hmerged := (compare?_integers hhigh hnext).2.1.not.mp (by rw [hequal]; decide)
  exact ⟨hleast, hgreatest, hexact.mp hcompare, hcompare, not_not.mp hmerged, hequal⟩

/-- **A comparison across representations merges ids.** Two different unsigned ids are both found
    equal to one signed id. -/
theorem merged_ids :
    let id := unsigned 9007199254740993
    let neighbour := unsigned 9007199254740992
    let shared := signed 9007199254740992
    id.compare? shared = some .eq ∧ shared.compare? neighbour = some .eq ∧
      id.compare? neighbour = some .gt ∧
      id.integer? = some 9007199254740993 ∧ shared.integer? = some 9007199254740992 := by
  decide +kernel

/-! ## Equality -/

/-- Numbers are equal when they are in one representation and no order is between them. -/
theorem beq_iff (x y : Number) :
    x.beq y = true ↔ x.numberClass = y.numberClass ∧ x.compare? y = some .eq := by
  cases x with
  | signed a =>
    cases y with
    | signed b => simp [beq, compare?, numberClass, Int64.toInt_inj]
    | _ => simp [beq, numberClass]
  | unsigned a =>
    cases y with
    | unsigned b => simp [beq, compare?, numberClass, UInt64.toNat_inj]
    | _ => simp [beq, numberClass]
  | float a =>
    cases y with
    | float b => simp [beq, compare?, numberClass, Binary64.numEq]
    | _ => simp [beq, numberClass]

/-- Two integers are found equal when they are, or when they are merged. -/
theorem compare?_eq_iff (hx : x.integer? = some m) (hy : y.integer? = some n) :
    x.compare? y = some .eq ↔ m = n ∨ x.Merged y := by
  rcases compare?_cases hx hy with ⟨hapart, h⟩ | ⟨hmerged, h⟩
  · rw [h, Option.some.injEq, compare_eq_iff_eq, or_iff_left hapart]
  · exact iff_of_true h (.inr hmerged)

/-- A number is less or equal in the order when it is less or the order finds them equal. -/
theorem isLessOrEqual_iff (x y : Number) :
    x.isLessOrEqual y = true ↔ x.isLess y = true ∨ x.compare? y = some .eq := by
  simp [isLessOrEqual, isLess]

/-- **Where equality and order of integers agree.** Two integers are equal when they are the same
    one in one representation. The order finds them equal when they are the same one in any two, or
    when they are merged. So both agree, and less or equal is less or equal, unless the
    representations differ and the integers are the same one or merged. -/
theorem beq_consistent_iff (hx : x.integer? = some m) (hy : y.integer? = some n) :
    (x.beq y = true ↔ x.numberClass = y.numberClass ∧ m = n) ∧
    (x.compare? y = some .eq ↔ m = n ∨ x.Merged y) ∧
    ((x.beq y = true ↔ x.compare? y = some .eq) ↔
      x.numberClass = y.numberClass ∨ m ≠ n ∧ ¬ x.Merged y) ∧
    ((x.isLessOrEqual y = true ↔ x.isLess y = true ∨ x.beq y = true) ↔
      x.numberClass = y.numberClass ∨ m ≠ n ∧ ¬ x.Merged y) := by
  have horder := compare?_eq_iff hx hy
  have hbeq : x.beq y = true ↔ x.numberClass = y.numberClass ∧ m = n := by
    rw [beq_iff, horder]
    refine and_congr_right fun hclass => or_iff_left fun hmerged => ?_
    exact hmerged.classes hclass
  have hagree : (x.beq y = true ↔ x.compare? y = some .eq) ↔
      x.numberClass = y.numberClass ∨ m ≠ n ∧ ¬ x.Merged y := by
    rw [hbeq, horder]
    by_cases hclass : x.numberClass = y.numberClass
    · have hapart : ¬ x.Merged y := fun hmerged => hmerged.classes hclass
      simp [hclass, hapart]
    · simp [hclass, not_or]
  refine ⟨hbeq, horder, hagree, ?_⟩
  rw [← hagree, isLessOrEqual_iff]
  -- what is less is not found equal
  have hless : x.isLess y = true → x.compare? y ≠ some .eq := by
    intro h heq
    rw [isLess, heq] at h
    cases h
  have hequal : x.beq y = true → x.compare? y = some .eq := fun h => ((beq_iff x y).mp h).2
  constructor
  · intro h
    refine ⟨hequal, fun heq => ?_⟩
    rcases h.mp (.inr heq) with hlt | hbeq
    · exact absurd heq (hless hlt)
    · exact hbeq
  · exact fun h => or_congr_right h.symm

/-- The least signed integer and the greatest unsigned one are in two representations, differ and
    are not merged: neither equality nor order finds them equal. -/
theorem beq_consistent_iff_extremes :
    let least := signed (-9223372036854775808)
    let greatest := unsigned 18446744073709551615
    least.integer? = some (-9223372036854775808) ∧
      greatest.integer? = some 18446744073709551615 ∧
      (least.beq greatest = true ↔ least.compare? greatest = some .eq) := by
  intro least greatest
  have hleast : least.integer? = some (-9223372036854775808) := rfl
  have hgreatest : greatest.integer? = some 18446744073709551615 := rfl
  obtain ⟨_, horder, hagree, _⟩ := beq_consistent_iff hleast hgreatest
  refine ⟨hleast, hgreatest, hagree.mpr (.inr ⟨by decide, fun hmerged => ?_⟩)⟩
  have hequal := horder.mpr (.inr hmerged)
  revert hequal
  decide +kernel

/-- **A signed five and an unsigned five are unequal, and the order finds them equal**: the one is
    at most the other, and neither less nor equal. -/
theorem unequal_fives :
    (signed 5).beq (unsigned 5) = false ∧ (signed 5).compare? (unsigned 5) = some .eq ∧
      (signed 5).isLessOrEqual (unsigned 5) = true ∧ (signed 5).isLess (unsigned 5) = false := by
  decide +kernel

end Number

end Sift

