import Mathlib.Data.List.TakeWhile
import Sift.Text.Lowercase
import Sift.Text.Search

/-!
# Lowering a part of a text

The lower case of a text is found character by character, and only a capital sigma looks at what
stands around it. This file says how the lower case of a part of a text is related to the lower case
of the whole: they agree but for the sigmas that end a word in one of them and not in the other.

* `lowerWithin` -- the lower case of a part, with what stands before and after it;
* `lowerWithin_eq_iff` -- the surroundings of a part make a difference exactly if they do to one of
  its capital sigmas;
* `SettledIn` -- a part stands in a text at a place that makes no difference. There it is found in
  lower case too (`contains_lower_of_settledIn`);
* `contains_medial_lower` -- with one form for all small sigmas the part is found wherever it
  stands.

No proof opens a table of characters, so all of this holds whatever the tables say.
-/

namespace Sift.Text

/-! ## 1. A part and what stands around it -/

/-- A capital sigma ends a word between `before`, nearest character first, and `after`. -/
def endsWord (before after : List Char) : Bool :=
  casedAhead before && !casedAhead after

/-- The lower case of one character between `before` and `after`. -/
def lowerAt (before : List Char) (c : Char) (after : List Char) : List Char :=
  if c = 'Σ' then if endsWord before after then ['ς'] else ['σ'] else lowerChar c

/-- The lower case of a part of a text that stands between `before` and `after`. -/
def lowerWithin (before part after : List Char) : List Char :=
  match part with
  | [] => []
  | c :: rest => lowerAt before c (rest ++ after) ++ lowerWithin (c :: before) rest after

/-- **A text is lowered part by part**, each part with what stands around it. -/
theorem lowerFrom_append (before part after : List Char) :
    lowerFrom before (part ++ after) =
      lowerWithin before part after ++ lowerFrom (part.reverse ++ before) after := by
  induction part generalizing before with
  | nil => rfl
  | cons c rest ih =>
    have hstep : lowerFrom before (c :: (rest ++ after)) =
        lowerAt before c (rest ++ after) ++ lowerFrom (c :: before) (rest ++ after) := rfl
    rw [List.cons_append, hstep, ih, lowerWithin, List.append_assoc, List.reverse_cons,
      List.append_assoc, List.singleton_append]

/-- A text alone is a part with nothing around it. -/
theorem lowerFrom_eq_lowerWithin (part : List Char) : lowerFrom [] part = lowerWithin [] part [] := by
  have h := lowerFrom_append [] part []
  simpa [lowerFrom] using h

/-- **The lower case of a part is a block of the lower case of the whole.** -/
theorem lowerWithin_isBlock (before part after : List Char) :
    lowerWithin before.reverse part after <:+: lowerFrom [] (before ++ part ++ after) := by
  refine ⟨lowerWithin [] before (part ++ after),
    lowerFrom (part.reverse ++ before.reverse) after, ?_⟩
  rw [List.append_assoc before, lowerFrom_append [] before, List.append_nil, lowerFrom_append,
    List.append_assoc]

/-! ## 2. Where the surroundings make a difference -/

/-- The surroundings of a character make a difference only to a capital sigma. -/
theorem lowerAt_eq_iff {before before' after after' : List Char} {c : Char} :
    lowerAt before c after = lowerAt before' c after' ↔
      (c = 'Σ' → endsWord before after = endsWord before' after') := by
  unfold lowerAt
  by_cases hc : c = 'Σ'
  · simp only [hc, true_implies]
    cases endsWord before after <;> cases endsWord before' after' <;> decide
  · simp [hc]

theorem length_lowerAt (before before' after after' : List Char) (c : Char) :
    (lowerAt before c after).length = (lowerAt before' c after').length := by
  unfold lowerAt
  by_cases hc : c = 'Σ'
  · rw [if_pos hc, if_pos hc]
    cases endsWord before after <;> cases endsWord before' after' <;> rfl
  · rw [if_neg hc, if_neg hc]

/-- **The surroundings of a part make a difference exactly if they do to one of its capital
    sigmas.** -/
theorem lowerWithin_eq_iff {part before before' after after' : List Char} :
    lowerWithin before part after = lowerWithin before' part after' ↔
      ∀ u w, part = u ++ 'Σ' :: w →
        endsWord (u.reverse ++ before) (w ++ after) =
          endsWord (u.reverse ++ before') (w ++ after') := by
  induction part generalizing before before' with
  | nil => simp [lowerWithin]
  | cons c rest ih =>
    have hcut : lowerWithin before (c :: rest) after = lowerWithin before' (c :: rest) after' ↔
        lowerAt before c (rest ++ after) = lowerAt before' c (rest ++ after') ∧
          lowerWithin (c :: before) rest after = lowerWithin (c :: before') rest after' := by
      simp only [lowerWithin]
      constructor
      · intro h
        exact List.append_inj h (length_lowerAt _ _ _ _ c)
      · rintro ⟨hhead, hrest⟩
        rw [hhead, hrest]
    rw [hcut, lowerAt_eq_iff, ih]
    -- a capital sigma is the first character or one of the rest
    constructor
    · rintro ⟨hhead, hrest⟩ u w hsplit
      rcases List.cons_eq_append_iff.mp hsplit with ⟨rfl, hfirst⟩ | ⟨u', rfl, hlater⟩
      · cases hfirst
        simpa using hhead rfl
      · simpa using hrest u' w hlater
    · intro h
      refine ⟨?_, fun u w hsplit => ?_⟩
      · rintro rfl
        simpa using h [] rest rfl
      · simpa using h (c :: u) w (by rw [hsplit, List.cons_append])

/-! ## 3. Settled parts -/

/-- `part` stands in `whole` at a place where each of its capital sigmas ends a word if and only if
    it does so in `part` alone. -/
def SettledIn (part whole : String) : Prop :=
  ∃ before after, whole.toList = before ++ part.toList ++ after ∧
    ∀ u w, part.toList = u ++ 'Σ' :: w →
      endsWord u.reverse w = endsWord (u.reverse ++ before.reverse) (w ++ after)

/-- **What is settled in a text is found in it in lower case.** -/
theorem contains_lower_of_settledIn {part whole : String} (h : SettledIn part whole) :
    contains (lower whole) (lower part) = true := by
  obtain ⟨before, after, hwhole, hsettled⟩ := h
  have hsame : lowerWithin [] part.toList [] = lowerWithin before.reverse part.toList after := by
    rw [lowerWithin_eq_iff]
    simpa using hsettled
  rw [contains_eq_true_iff]
  unfold lower
  rw [String.toList_ofList, String.toList_ofList, hwhole, lowerFrom_eq_lowerWithin part.toList,
    hsame]
  exact lowerWithin_isBlock before part.toList after

/-- Characters that are not case-ignorable hide what stands behind them. -/
theorem casedAhead_append {cs : List Char} (more : List Char)
    (h : ∃ c ∈ cs, caseIgnorableTable.has c = false) : casedAhead (cs ++ more) = casedAhead cs := by
  have hleft : cs.dropWhile caseIgnorableTable.has ≠ [] := by
    intro hnone
    obtain ⟨c, hc, hcount⟩ := h
    rw [List.dropWhile_eq_nil_iff.mp hnone c hc] at hcount
    cases hcount
  unfold casedAhead
  cases hcs : cs.dropWhile caseIgnorableTable.has with
  | nil => exact absurd hcs hleft
  | cons c rest => rw [List.dropWhile_append, hcs]; rfl

/-- **A part is settled wherever it stands** if in it every capital sigma has a character on both
    sides that is not case-ignorable. -/
theorem settledIn_of_contains {part whole : String} (h : contains whole part = true)
    (hinner : ∀ u w, part.toList = u ++ 'Σ' :: w →
      (∃ c ∈ u, caseIgnorableTable.has c = false) ∧ ∃ c ∈ w, caseIgnorableTable.has c = false) :
    SettledIn part whole := by
  obtain ⟨before, after, hwhole⟩ := contains_eq_true_iff.mp h
  refine ⟨before, after, hwhole.symm, fun u w hsplit => ?_⟩
  obtain ⟨⟨c, hc, hcount⟩, hw⟩ := hinner u w hsplit
  unfold endsWord
  rw [casedAhead_append _ ⟨c, List.mem_reverse.mpr hc, hcount⟩, casedAhead_append _ hw]

/-! ## 4. One form for the small sigmas -/

/-- The final sigma in its other form, and every other character as it is. -/
def medial (c : Char) : Char :=
  if c = 'ς' then 'σ' else c

/-- A text with one form for all small sigmas. -/
def withMedialSigmas (s : String) : String :=
  String.ofList (s.toList.map medial)

theorem map_medial_lowerAt (before before' after after' : List Char) (c : Char) :
    (lowerAt before c after).map medial = (lowerAt before' c after').map medial := by
  unfold lowerAt
  by_cases hc : c = 'Σ'
  · rw [if_pos hc, if_pos hc]
    cases endsWord before after <;> cases endsWord before' after' <;> decide
  · rw [if_neg hc, if_neg hc]

/-- Up to the form of the sigmas the surroundings make no difference. -/
theorem map_medial_lowerWithin (part before before' after after' : List Char) :
    (lowerWithin before part after).map medial = (lowerWithin before' part after').map medial := by
  induction part generalizing before before' with
  | nil => rfl
  | cons c rest ih =>
    simp only [lowerWithin, List.map_append]
    rw [map_medial_lowerAt before before' _ (rest ++ after'), ih (c :: before) (c :: before')]

/-- **With one form for all small sigmas lowering loses nothing.** -/
theorem contains_medial_lower {part whole : String} (h : contains whole part = true) :
    contains (withMedialSigmas (lower whole)) (withMedialSigmas (lower part)) = true := by
  obtain ⟨before, after, hwhole⟩ := contains_eq_true_iff.mp h
  rw [contains_eq_true_iff]
  unfold withMedialSigmas lower
  simp only [String.toList_ofList]
  rw [lowerFrom_eq_lowerWithin part.toList,
    map_medial_lowerWithin part.toList [] before.reverse [] after, ← hwhole]
  exact (lowerWithin_isBlock before part.toList after).map medial

end Sift.Text
