import Sift.Proofs.Lowering
import Sift.Proofs.ScalarOrder

/-!
# Moments in their order

A moment is a day, a second of the day and a fraction of the second. What is compared at run time is
one number, the milliseconds since the epoch. A leap second is written as a fraction that goes
beyond a whole second, and there is no number for it that does not belong to the second after it as
well. This file says how far the numbers keep the order of the moments:

* `Moment.isBefore_iff`, `Moment.millis_eq` -- the order of moments and their milliseconds, both by
  whole seconds and a fraction;
* `Moment.Overtakes` -- a moment in a leap second against one in the second after it;
* `Moment.millis_lt_iff` -- only there the milliseconds turn the order of two moments around;
* `Moment.millis_eq_iff` -- which moments have the same milliseconds;
* `Moment.eval_in_order` -- the main statement, about the comparisons of a search.
-/

namespace Sift

namespace Moment

/-! ## 1. Seconds and fractions -/

/-- The whole seconds since the first moment of day zero. -/
def seconds (m : Moment) : Int := 86400 * m.day + m.second

/-- The whole milliseconds of the fraction. -/
def fraction (m : Moment) : Nat := m.nanos / 1000000

/-- The moment lies in a leap second. -/
def IsLeap (m : Moment) : Prop := 1000000000 ≤ m.nanos

/-- The second moment lies in the second after the first one, and less far into it than the leap
    second has run on from there. -/
structure Overtakes (a b : Moment) : Prop where
  next : b.seconds = a.seconds + 1
  further : b.fraction + 1000 < a.fraction

/-- Both moments lie in one millisecond of one second, or the leap second of the first one has run
    on to the millisecond of the second one. -/
def FallsOn (a b : Moment) : Prop :=
  (b.seconds = a.seconds ∧ b.fraction = a.fraction) ∨
    (b.seconds = a.seconds + 1 ∧ b.fraction + 1000 = a.fraction)

variable {a b : Moment}

/-- The order of moments is that of their seconds, and within a second that of their fractions. -/
theorem isBefore_iff (ha : a.IsValid) (hb : b.IsValid) :
    a.IsBefore b ↔ a.seconds < b.seconds ∨ (a.seconds = b.seconds ∧ a.nanos < b.nanos) := by
  have hsa := ha.1
  have hsb := hb.1
  simp only [IsBefore, seconds]
  constructor
  · intro h
    rcases h with hday | ⟨hday, hsecond | ⟨hsecond, hnanos⟩⟩
    · exact .inl (by omega)
    · exact .inl (by omega)
    · exact .inr ⟨by omega, hnanos⟩
  · intro h
    rcases h with hseconds | ⟨hseconds, hnanos⟩
    · by_cases hday : a.day < b.day
      · exact .inl hday
      · exact .inr ⟨by omega, .inl (by omega)⟩
    · have hday : a.day = b.day := by omega
      exact .inr ⟨hday, .inr ⟨by omega, hnanos⟩⟩

/-- What is not after another moment lies in an earlier second, or in the same and not further. -/
theorem not_isBefore_iff (ha : a.IsValid) (hb : b.IsValid) :
    ¬ b.IsBefore a ↔ a.seconds < b.seconds ∨ (a.seconds = b.seconds ∧ a.nanos ≤ b.nanos) := by
  rw [isBefore_iff hb ha]
  omega

/-- The milliseconds are those of the whole seconds and those of the fraction. -/
theorem millis_eq (m : Moment) : m.millis = 1000 * m.seconds + m.fraction := by
  unfold millis seconds fraction
  omega

theorem fraction_lt (h : a.IsValid) : a.fraction < 2000 := by
  have hnanos := h.2
  unfold fraction
  omega

/-- Outside of leap seconds a fraction is less than a second. -/
theorem fraction_lt_of_not_isLeap (h : ¬ a.IsLeap) : a.fraction < 1000 := by
  unfold IsLeap at h
  unfold fraction
  omega

/-- Further into a second are at least as many milliseconds. -/
theorem fraction_mono (h : a.nanos ≤ b.nanos) : a.fraction ≤ b.fraction :=
  Nat.div_le_div_right h

/-- Only a moment in a leap second overtakes another one. -/
theorem Overtakes.isLeap (h : a.Overtakes b) : a.IsLeap := by
  by_contra hleap
  have hless := fraction_lt_of_not_isLeap hleap
  have hfurther := h.further
  omega

/-- Outside of leap seconds moments fall on each other within one millisecond of one second only. -/
theorem fallsOn_iff_of_not_isLeap (h : ¬ a.IsLeap) :
    a.FallsOn b ↔ b.seconds = a.seconds ∧ b.fraction = a.fraction := by
  have hless := fraction_lt_of_not_isLeap h
  unfold FallsOn
  constructor
  · intro hfalls
    rcases hfalls with hsame | ⟨_, hrun⟩
    · exact hsame
    · omega
  · exact .inl

/-! ## 2. Milliseconds in order -/

section InOrder

variable (ha : a.IsValid) (hb : b.IsValid) (h : ¬ b.IsBefore a)

include ha hb h

/-- **The milliseconds turn the order of two moments around exactly if the first one overtakes the
second one.** -/
theorem millis_lt_iff : b.millis < a.millis ↔ a.Overtakes b := by
  have hmillis := millis_eq a
  have hmillis' := millis_eq b
  have hless := fraction_lt ha
  rcases (not_isBefore_iff ha hb).mp h with hlater | ⟨hsame, hnanos⟩
  · constructor
    · intro hlt
      -- a fraction is less than two seconds, so it does not reach the second after the next one
      have hnext : b.seconds = a.seconds + 1 := by omega
      exact ⟨hnext, by omega⟩
    · intro hovertakes
      have hnext := hovertakes.next
      have hfurther := hovertakes.further
      omega
  · have hfraction := fraction_mono hnanos
    constructor
    · intro hlt
      omega
    · intro hovertakes
      have hnext := hovertakes.next
      omega

/-- **Two moments have the same milliseconds exactly if the first one falls on the second one.** -/
theorem millis_eq_iff : a.millis = b.millis ↔ a.FallsOn b := by
  have hmillis := millis_eq a
  have hmillis' := millis_eq b
  have hless := fraction_lt ha
  unfold FallsOn
  rcases (not_isBefore_iff ha hb).mp h with hlater | ⟨hsame, _⟩
  · constructor
    · intro heq
      have hnext : b.seconds = a.seconds + 1 := by omega
      exact .inr ⟨hnext, by omega⟩
    · intro hfalls
      rcases hfalls with ⟨hsame, _⟩ | ⟨hnext, hrun⟩ <;> omega
  · constructor
    · intro heq
      exact .inl ⟨hsame.symm, by omega⟩
    · intro hfalls
      rcases hfalls with ⟨_, hfraction⟩ | ⟨hnext, _⟩ <;> omega

end InOrder

/-! ## 3. Moments in a search -/

/-- **How far the values of moments keep their order.** Let the second moment be the first one or
    come after it. Then the timestamps that are read for them are in order, and no comparison says
    that the first one is greater or the second one less, exactly if the first one does not overtake
    the second one; and they are found equal exactly if the first one falls on the second one. A
    moment that does not lie in a leap second overtakes no other, and falls on another one only
    within one millisecond of one second. -/
theorem eval_in_order (exposure : Exposure) (ha : a.CanBeWritten) (hb : b.CanBeWritten)
    (h : ¬ b.IsBefore a) :
    ∃ s t : Timestamp, Datum.lower exposure .dateTime (.moment a) = .timestamp s ∧
      Datum.lower exposure .dateTime (.moment b) = .timestamp t ∧
      (s.millis.toInt ≤ t.millis.toInt ↔ ¬ a.Overtakes b) ∧
      (Comparison.lessOrEqual.eval (.timestamp s) (.timestamp t) = true ↔ ¬ a.Overtakes b) ∧
      (Comparison.greaterOrEqual.eval (.timestamp t) (.timestamp s) = true ↔ ¬ a.Overtakes b) ∧
      (Comparison.greater.eval (.timestamp s) (.timestamp t) = true ↔ a.Overtakes b) ∧
      (Comparison.less.eval (.timestamp t) (.timestamp s) = true ↔ a.Overtakes b) ∧
      (Comparison.equal.eval (.timestamp s) (.timestamp t) = true ↔ a.FallsOn b) ∧
      (¬ a.IsLeap → ¬ a.Overtakes b ∧
        (a.FallsOn b ↔ b.seconds = a.seconds ∧ b.fraction = a.fraction)) := by
  have hs := toInt_millis ha
  have ht := toInt_millis hb
  have hturned := millis_lt_iff ha.1 hb.1 h
  have hkept : a.millis ≤ b.millis ↔ ¬ a.Overtakes b := by rw [← hturned, Int.not_lt]
  have heval : ∀ {m n : Moment} {c : Comparison}, m.CanBeWritten → n.CanBeWritten →
      c ∈ Comparison.scalar → (c.eval (.timestamp ⟨Int64.ofInt m.millis⟩)
        (.timestamp ⟨Int64.ofInt n.millis⟩) = true ↔ c.OfRanks m.millis n.millis) := by
    intro m n c hm hn hc
    rw [Comparison.eval_timestamps_iff hc, toInt_millis hm, toInt_millis hn]
  refine ⟨⟨Int64.ofInt a.millis⟩, ⟨Int64.ofInt b.millis⟩, rfl, rfl, ?order, ?_, ?_, ?_, ?_, ?equal,
    ?leap⟩
  case order =>
    rw [hs, ht]
    exact hkept
  · exact (heval ha hb (by decide)).trans hkept
  · exact (heval hb ha (by decide)).trans hkept
  · exact (heval ha hb (by decide)).trans hturned
  · exact (heval hb ha (by decide)).trans hturned
  case equal => exact (heval ha hb (by decide)).trans (millis_eq_iff ha.1 hb.1 h)
  case leap =>
    intro hleap
    exact ⟨mt Overtakes.isLeap hleap, fallsOn_iff_of_not_isLeap hleap⟩

/-- Just before the leap second at the end of 2016. -/
def beforeLeapSecond : Moment := ⟨17166, 86399, 999999999⟩

/-- Half a second into it. -/
def inLeapSecond : Moment := ⟨17166, 86399, 1500000000⟩

/-- The first moment of 2017. -/
def newYear : Moment := ⟨17167, 0, 0⟩

theorem canBeWritten_leapSecond :
    beforeLeapSecond.CanBeWritten ∧ inLeapSecond.CanBeWritten ∧ newYear.CanBeWritten :=
  ⟨⟨by decide, by decide⟩, ⟨by decide, by decide⟩, ⟨by decide, by decide⟩⟩

/-- The moment before the leap second is in order with the one in it, which overtakes the new
    year. -/
theorem eval_in_order_leapSecond :
    (beforeLeapSecond.CanBeWritten ∧ inLeapSecond.CanBeWritten ∧ newYear.CanBeWritten) ∧
    ¬ inLeapSecond.IsBefore beforeLeapSecond ∧ ¬ newYear.IsBefore inLeapSecond ∧
    (∃ s t : Timestamp,
      Datum.lower (fun _ => []) .dateTime (.moment beforeLeapSecond) = .timestamp s ∧
      Datum.lower (fun _ => []) .dateTime (.moment inLeapSecond) = .timestamp t ∧
      s.millis.toInt ≤ t.millis.toInt ∧
      Comparison.equal.eval (.timestamp s) (.timestamp t) = false) ∧
    ∃ s t : Timestamp, Datum.lower (fun _ => []) .dateTime (.moment inLeapSecond) = .timestamp s ∧
      Datum.lower (fun _ => []) .dateTime (.moment newYear) = .timestamp t ∧
      Comparison.greater.eval (.timestamp s) (.timestamp t) = true := by
  obtain ⟨hbefore, hin, hyear⟩ := canBeWritten_leapSecond
  have horder : ¬ inLeapSecond.IsBefore beforeLeapSecond := by decide
  have horder' : ¬ newYear.IsBefore inLeapSecond := by decide
  obtain ⟨s, t, hs, ht, hle, _, _, _, _, hequal, hleap⟩ :=
    eval_in_order (fun _ => []) hbefore hin horder
  obtain ⟨u, v, hu, hv, _, _, _, hgreater, _⟩ := eval_in_order (fun _ => []) hin hyear horder'
  obtain ⟨hnot, hfalls⟩ := hleap (by unfold IsLeap; decide)
  refine ⟨canBeWritten_leapSecond, horder, horder', ⟨s, t, hs, ht, hle.mpr hnot, ?_⟩,
    u, v, hu, hv, hgreater.mpr ⟨by decide, by decide⟩⟩
  rw [Bool.eq_false_iff]
  exact mt (hequal.trans hfalls).mp (by decide)

/-- **A moment in a leap second may be counted after one that it comes before.** -/
theorem leap_second_after_new_year :
    ofParts? 2016 12 31 23 59 59 1500000000 = some inLeapSecond ∧
    ofParts? 2017 1 1 0 0 0 0 = some newYear ∧
    inLeapSecond.IsBefore newYear ∧
    (∀ exposure : Exposure,
      Datum.lower exposure .dateTime (.moment inLeapSecond) = .timestamp ⟨1483228800500⟩ ∧
      Datum.lower exposure .dateTime (.moment newYear) = .timestamp ⟨1483228800000⟩) ∧
    Comparison.greater.eval (.timestamp ⟨1483228800500⟩) (.timestamp ⟨1483228800000⟩) = true :=
  ⟨by decide, by decide, by decide, fun _ => ⟨rfl, rfl⟩, by decide⟩

end Moment

end Sift
