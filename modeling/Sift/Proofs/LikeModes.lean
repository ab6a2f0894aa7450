import Sift.Proofs.FinalSigma
import Sift.Proofs.OptionChanges

/-!
# What a search loses when case is ignored

The two modes of `like` make the same specification but for the comparison of the fields that search
by `like`. One expects that a search that ignores case finds all that the other one finds, unless a
field is negated. This file says how far that is so.

* `Field.MayLose` -- a field that searches by `like` and is negated, or looks for a text that stands
  in the one it reads, but only where one of its capital sigmas ends a word in one of the two and
  not in the other;
* `LikeMode.ignoring_case_loses` -- only such fields lose a record.
-/

namespace Sift

/-- The options with another mode of `like`. -/
def Options.withLike (options : Options) (like : LikeMode) : Options := { options with like }

section Fields

variable (catalog : Catalog) (model filter : Shape) (overridden : List String)

/-- Ignoring case may lose the record for the field. The field searches by `like` and is negated, or
    the text it looks for stands in the text it reads, but nowhere settled: wherever it stands, one
    of its capital sigmas ends a word in one of the two texts and not in the other. -/
def Field.MayLose (r f : Record) (d : Field) : Prop :=
  ∃ path, d.LikesAt catalog model filter overridden path ∧
    (d.settings.negate = true ∨
      ∃ m t, path.access r = .text m ∧ f.get d.name = .text t ∧
        Text.contains m t = true ∧ ¬ Text.SettledIn t m)

variable {catalog model filter overridden} {options : Options} {d : Field} {step step' : Step}

/-- A filter compiles in one mode if it compiles in the other. -/
theorem Specification.compile_withLike {o : Overrides} {like : LikeMode} (like' : LikeMode)
    {s : Specification} (hs : compile catalog model filter o (options.withLike like) = .ok s) :
    ∃ s', compile catalog model filter o (options.withLike like') = .ok s' :=
  compile_isOk_under_iff.mp ⟨s, hs⟩

/-- What is settled in a text is found in it when case is ignored. -/
theorem Comparison.eval_containsIgnoreCase_of_settledIn {m t : String} (h : Text.SettledIn t m) :
    containsIgnoreCase.eval (.text m) (.text t) = true := by
  simp only [eval, onText]
  exact Text.contains_lower_of_settledIn h

/-- **Where a field does not lose the record, its step still holds** when case is ignored, and is
    active for the same instances. -/
theorem eval_ignoring_case {o : Overrides} {r f : Record}
    (h : fieldStep catalog model filter overridden (options.withLike .ordinal) d = .ok step)
    (h' : fieldStep catalog model filter overridden (options.withLike .caseInsensitive) d =
      .ok step') :
    step'.admits f = step.admits f ∧
      (¬ d.MayLose catalog model filter overridden r f → step.condition.eval o r f = true →
        step'.condition.eval o r f = true) := by
  -- the two steps are made under options that differ in the mode only
  have hsame := Field.sameBut_of_fieldStep h h'
  have hguard : step.guard = step'.guard := by
    by_contra hne
    exact (hsame.guard_ne_iff.mp hne).2 rfl
  have hadmits : step'.admits f = step.admits f := by
    unfold Step.admits
    rw [hsame.field.1, hsame.field.2, hguard]
  refine ⟨hadmits, fun hkept hholds => ?_⟩
  by_cases hlikes : ∃ path, d.LikesAt catalog model filter overridden path
  · obtain ⟨path, hlikes⟩ := hlikes
    obtain ⟨hcontains, hignores⟩ := hsame.likes path hlikes
    have hplain : d.settings.negate = false :=
      Bool.eq_false_iff.mpr fun hneg => hkept ⟨path, hlikes, .inl hneg⟩
    rw [hplain, Condition.negatedIf_false] at hcontains hignores
    rw [hcontains] at hholds
    obtain ⟨m, t, hm, ht, hfound⟩ :=
      (Comparison.onText_eq_true_iff fun _ _ => Iff.rfl).mp hholds
    have hsettled : Text.SettledIn t m := by
      by_contra hnot
      exact hkept ⟨path, hlikes, .inr ⟨m, t, hm, ht, hfound, hnot⟩⟩
    rw [hignores]
    show Comparison.containsIgnoreCase.eval (path.access r) (f.get d.name) = true
    rw [hm, ht]
    exact Comparison.eval_containsIgnoreCase_of_settledIn hsettled
  · have hcondition : step.condition = step'.condition := by
      by_contra hne
      exact hlikes (hsame.condition_ne_iff.mp hne).1
    rw [← hcondition]
    exact hholds

/-- **A record that passes still passes when case is ignored**, if no field loses it. -/
theorem Specification.holds_ignoring_case {o : Overrides} {s s' : Specification}
    (hs : compile catalog model filter o (options.withLike .ordinal) = .ok s)
    (hs' : compile catalog model filter o (options.withLike .caseInsensitive) = .ok s')
    {r f : Record} (hkept : ∀ d ∈ filter.searched, ¬ d.MayLose catalog model filter o.fields r f)
    (hholds : s.holds r f = true) : s'.holds r f = true := by
  rw [holds_iff] at hholds ⊢
  intro n' hn' hactive'
  -- the field of the step has a step in the other mode too
  have hsteps' := (List.forall₂_and_left filter.searched s'.steps).mpr
    ⟨fun _ hd => hd, steps_of_compile hs'⟩
  obtain ⟨d, _, hd, step', hstep', hlower'⟩ := exists_left_of_forall₂ hsteps' hn'
  obtain ⟨n, hn, step, hstep, hlower⟩ := exists_left_of_forall₂ (steps_of_compile hs).flip hd
  obtain ⟨hadmits, heval⟩ := eval_ignoring_case (o := o) (r := r) (f := f) hstep hstep'
  have hactive : n.isActive f = true := by
    rw [(hlower r f).1, ← hadmits, ← (hlower' r f).1]
    exact hactive'
  have htrue : step.condition.eval o r f = true := by
    rw [← (hlower r f).2]
    exact hholds n hn hactive
  rw [(hlower' r f).2]
  exact heval (hkept d hd) htrue

end Fields

/-- **What is lost when case is ignored.** A text that stands in another one is found in it without
    regard to case too, if it is settled there; and with one form for all small sigmas it is found
    always. A filter that compiles compiles in the other mode, and a record that passes when case
    matters passes when it is ignored, unless there is a field that searches by `like` and is
    negated, or looks for a text that stands in the one it reads but is not settled there. -/
theorem LikeMode.ignoring_case_loses (m t : String) (catalog : Catalog) (model filter : Shape)
    (o : Overrides) (options : Options) :
    (Comparison.contains.eval (.text m) (.text t) = true →
      (Text.SettledIn t m → Comparison.containsIgnoreCase.eval (.text m) (.text t) = true) ∧
      Text.contains (Text.withMedialSigmas (Text.lower m))
        (Text.withMedialSigmas (Text.lower t)) = true) ∧
    ∀ s, Specification.compile catalog model filter o (options.withLike .ordinal) = .ok s →
      ∃ s', Specification.compile catalog model filter o (options.withLike .caseInsensitive) =
          .ok s' ∧
        ∀ r f, s.holds r f = true →
          s'.holds r f = true ∨
            ∃ d ∈ filter.searched, d.MayLose catalog model filter o.fields r f := by
  refine ⟨fun hfound => ⟨?settled, ?always⟩, fun s hs => ?_⟩
  case settled => exact Comparison.eval_containsIgnoreCase_of_settledIn
  case always => exact Text.contains_medial_lower hfound
  obtain ⟨s', hs'⟩ := Specification.compile_withLike .caseInsensitive hs
  refine ⟨s', hs', fun r f hholds => ?_⟩
  by_cases hlost : ∃ d ∈ filter.searched, d.MayLose catalog model filter o.fields r f
  · exact .inr hlost
  · have hkept : ∀ d ∈ filter.searched, ¬ d.MayLose catalog model filter o.fields r f :=
      fun d hd hloses => hlost ⟨d, hd, hloses⟩
    exact .inl (Specification.holds_ignoring_case hs hs' hkept hholds)

namespace Ticket

/-- A title to find, by `like`. -/
def titleFilter : Shape :=
  ⟨"TitleFilter", [⟨"title", .text, .default⟩]⟩

/-- A ticket about philosophy, in capitals. -/
def philosophy : Record :=
  ⟨3, true, [("title", .text "ΦΙΛΟΣΟΦΙΑ")]⟩

/-- Asks for a part of the word, with a sigma inside. -/
def wantedPart : Record :=
  ⟨4, true, [("title", .text "ΦΙΛΟΣΟΦ")]⟩

/-- The only sigma of the part has letters on both sides. -/
theorem settledIn_philosophy : Text.SettledIn "ΦΙΛΟΣΟΦ" "ΦΙΛΟΣΟΦΙΑ" := by
  refine Text.settledIn_of_contains (by decide +kernel) fun u w hsplit => ?_
  have hletters : "ΦΙΛΟΣΟΦ".toList = ['Φ', 'Ι', 'Λ', 'Ο'] ++ 'Σ' :: ['Ο', 'Φ'] := by
    decide +kernel
  rw [hletters] at hsplit
  obtain ⟨rfl, _, rfl⟩ := (List.append_cons_inj_of_notMem (by decide) (by decide)).mp hsplit
  exact ⟨⟨'Ο', by decide, by decide +kernel⟩, ⟨'Ο', by decide, by decide +kernel⟩⟩

/-- The part is found in the word, and the ticket by the filter, when case is ignored. -/
theorem ignoring_case_loses_philosophy :
    (Comparison.contains.eval (.text "ΦΙΛΟΣΟΦΙΑ") (.text "ΦΙΛΟΣΟΦ") = true ∧
      Text.SettledIn "ΦΙΛΟΣΟΦ" "ΦΙΛΟΣΟΦΙΑ" ∧
      Comparison.containsIgnoreCase.eval (.text "ΦΙΛΟΣΟΦΙΑ") (.text "ΦΙΛΟΣΟΦ") = true) ∧
    ∃ s s', Specification.compile catalog model titleFilter .empty
        (Options.default.withLike .ordinal) = .ok s ∧
      Specification.compile catalog model titleFilter .empty
        (Options.default.withLike .caseInsensitive) = .ok s' ∧
      s.holds philosophy wantedPart = true ∧ s'.holds philosophy wantedPart = true := by
  obtain ⟨htexts, hfilters⟩ := LikeMode.ignoring_case_loses "ΦΙΛΟΣΟΦΙΑ" "ΦΙΛΟΣΟΦ" catalog model
    titleFilter .empty .default
  have hfound : Comparison.contains.eval (.text "ΦΙΛΟΣΟΦΙΑ") (.text "ΦΙΛΟΣΟΦ") = true := by
    decide +kernel
  obtain ⟨s, hs, hholds⟩ : ∃ s, Specification.compile catalog model titleFilter .empty
      (Options.default.withLike .ordinal) = .ok s ∧ s.holds philosophy wantedPart = true :=
    ⟨_, rfl, by decide +kernel⟩
  obtain ⟨s', hs', hkept⟩ := hfilters s hs
  refine ⟨⟨hfound, settledIn_philosophy, (htexts hfound).1 settledIn_philosophy⟩,
    s, s', hs, hs', hholds, (hkept philosophy wantedPart hholds).resolve_right ?_⟩
  -- the only field is not negated, and what it looks for is settled
  rintro ⟨d, hd, path, ⟨side, htarget, rfl, _⟩, hnegated | ⟨m, t, hm, ht, _, hunsettled⟩⟩
  · obtain rfl := List.mem_singleton.mp hd
    cases hnegated
  · obtain rfl := List.mem_singleton.mp hd
    cases htarget
    cases hm
    cases ht
    exact hunsettled settledIn_philosophy

/-- **A text that is lost when case is ignored**: alone its last sigma ends a word, and in the
    longer word it does not. -/
theorem lost_at_final_sigma :
    Comparison.contains.eval (.text "ΟΔΟΣΗΜΑ") (.text "ΟΔΟΣ") = true ∧
      Comparison.containsIgnoreCase.eval (.text "ΟΔΟΣΗΜΑ") (.text "ΟΔΟΣ") = false := by
  decide +kernel

end Ticket

end Sift
