import Sift.Proofs.Skipping
import Sift.Proofs.Soundness

/-!
# A filter left at its defaults

Two notions of an empty value live side by side: a record reports whether all its fields hold
defaults, and the guard of a declared type says whether a value was set. This file says how far they
agree.

* `Guard.admits_of_isDefault` -- a default is let through by the one guard that asks for presence
  only, and by no other;
* `FieldType.AsksPresence` -- the types that have this guard: an optional of anything but text and
  lists. The run-time value no longer shows the optional, so a number that is set to zero is a
  default, and yet it was set;
* `Specification.filter_of_allDefault` -- a filter left at its defaults matches everything, unless
  such an optional was set to a default;
* `Ticket.filter_of_no_votes` -- the exception is needed.
-/

namespace Sift

/-! ## 1. Defaults and guards -/

/-- Zero is not positive, in any representation. -/
theorem Number.isPositive_of_isZero {n : Number} (h : n.isZero = true) : n.isPositive = false := by
  cases n with
  | signed n =>
    have hzero : n = 0 := by simpa [isZero] using h
    rw [hzero]
    rfl
  | unsigned n =>
    have hzero : n = 0 := by simpa [isZero] using h
    rw [hzero]
    rfl
  | float x =>
    have hzero : x.compare? .zero = some .eq := by simpa [isZero, Binary64.isZero] using h
    simp [isPositive, Binary64.isPositive, hzero]

/-- **A default is let through by the guard that asks for presence only, if it is there.** -/
theorem Guard.admits_of_isDefault {v : Value} (h : v.isDefault = true) (g : Guard) :
    g.admits v = true ↔ g = .present ∧ v ≠ .absent := by
  cases g with
  | text =>
    cases v with
    | text s =>
      have hempty : s = "" := by simpa [Value.isDefault] using h
      simp [admits, Value.text?, hempty]
    | _ => simp [admits, Value.text?]
  | collection =>
    cases v with
    | list items =>
      have hempty : items = [] := by simpa [Value.isDefault] using h
      simp [admits, Value.list?, hempty]
    | _ => simp [admits, Value.list?]
  | present => cases v <;> simp [admits, Value.isAbsent]
  | positive =>
    cases v with
    | number n =>
      have hzero : n.isZero = true := by simpa [Value.isDefault] using h
      simp [admits, Value.number?, Number.isPositive_of_isZero hzero]
    | _ => simp [admits, Value.number?]
  | notBlank =>
    cases v with
    | timestamp t =>
      have hblank : t.isBlank = true := by simpa [Value.isDefault] using h
      simp [admits, Value.timestamp?, hblank]
    | _ => simp [admits, Value.timestamp?]
  | structural => simp [admits, h]

/-- An optional type, but not one of text or of lists: its values are asked for their presence and
    for nothing else. -/
def FieldType.AsksPresence (t : FieldType) : Prop :=
  ∃ inner, t = .optional inner ∧ inner ≠ .text ∧ inner.isList = false

theorem Guard.ofType_eq_present_iff {t : FieldType} :
    Guard.ofType t = .present ↔ t.AsksPresence := by
  unfold FieldType.AsksPresence
  cases t with
  | optional inner => cases inner <;> simp [ofType, FieldType.isList]
  | _ => simp [ofType]

/-- A default is let through by the guard of a type exactly if the type asks for presence only and
    the value is there. -/
theorem Guard.admits_ofType_of_isDefault {t : FieldType} {v : Value} (h : v.isDefault = true) :
    (Guard.ofType t).admits v = true ↔ t.AsksPresence ∧ v ≠ .absent := by
  rw [admits_of_isDefault h, ofType_eq_present_iff]

/-- Every field of a record that reports defaults holds one, also a field it does not have. -/
theorem Record.isDefault_get {r : Record} (h : r.allDefault = true) (name : String) :
    (r.get name).isDefault = true := by
  obtain ⟨identity, reportsDefaults, fields⟩ := r
  unfold Record.allDefault at h
  rw [Bool.and_eq_true, Record.allDefaultIn_eq_all, List.all_eq_true] at h
  have hfields := h.2
  show (Record.valueIn fields name).isDefault = true
  clear h
  induction fields with
  | nil => rfl
  | cons entry rest ih =>
    obtain ⟨n, v⟩ := entry
    rw [List.forall_mem_cons] at hfields
    rw [Record.valueIn_cons]
    split
    · exact hfields.1
    · exact ih hfields.2

/-! ## 2. Filters left at their defaults -/

section Filters

variable {catalog : Catalog} {model filter : Shape} {options : Options} {o : Overrides}
  {s : Specification} {f : Record}

/-- A step of a compiled filter lets an instance through when its field has no policy in force or
    the guard of the type admits the value. Names may repeat here. -/
theorem Plan.admits_of_ofShapes {overridden : List String} {plan : Plan}
    (hp : Plan.ofShapes catalog model filter overridden options = .ok plan) {step : Step}
    (hs : step ∈ plan.steps) : ∃ d ∈ filter.searched, ∀ f,
      step.admits f = (!d.skipsEmpty options || (Guard.ofType d.type).admits (f.get d.name)) := by
  obtain ⟨_, _, hsteps⟩ := Plan.ofShapes_eq_ok_iff.mp hp
  obtain ⟨d, hd, hstep⟩ := exists_left_of_forall₂ hsteps hs
  obtain ⟨_, _, _, _, rfl⟩ := fieldStep_eq_ok_iff.mp hstep
  exact ⟨d, hd, fun f => Step.admits_eq rfl f⟩

/-- **A filter left at its defaults matches everything**, under the emptiness policy, unless it sets
    an optional that is asked for its presence only. By the types: a default is let through by the
    guard of its type exactly if the type asks for presence only and the value is there. -/
theorem Specification.filter_of_allDefault
    (hs : compile catalog model filter o options = .ok s)
    (hpolicy : ∀ d ∈ filter.searched, d.skipsEmpty options = true) (hf : f.allDefault = true) :
    (∀ (t : FieldType) (v : Value), v.isDefault = true →
      ((Guard.ofType t).admits v = true ↔ t.AsksPresence ∧ v ≠ .absent)) ∧
    ((∀ d ∈ filter.searched, d.type.AsksPresence → f.get d.name = .absent) →
      ∀ records : List Record, s.filter records f = records) := by
  refine ⟨fun t v hv => Guard.admits_ofType_of_isDefault hv, fun hunset records => ?_⟩
  obtain ⟨plan, hplan, _, hholds⟩ := compile_ok hs
  have hall : ∀ r, s.holds r f = true := by
    intro r
    refine (hholds r f).mpr fun step hstep hadmits => ?_
    obtain ⟨d, hd, hguard⟩ := Plan.admits_of_ofShapes hplan hstep
    rw [hguard, hpolicy d hd, Bool.not_true, Bool.false_or,
      Guard.admits_ofType_of_isDefault (Record.isDefault_get hf d.name)] at hadmits
    exact absurd (hunset d hd hadmits.1) hadmits.2
  show s.apply records f = records
  rw [apply_eq_filter, List.filter_eq_self]
  exact fun r _ => hall r

end Filters

namespace Ticket

/-- A search form nobody has touched, for the worked filter and for the one below. -/
def untouched : Record :=
  ⟨5, true, [("title", .text ""), ("tag", .text ""), ("least", .number (.unsigned 0)),
    ("votes", .absent)]⟩

/-- Searches for a number of votes, if one is given. -/
def votesFilter : Shape :=
  ⟨"VotesFilter", [⟨"title", .text, .default⟩, ⟨"votes", .optional (.number .u32), .default⟩]⟩

/-- The untouched form finds every ticket. -/
theorem filter_of_allDefault_untouched :
    (∀ d ∈ votesFilter.searched, d.skipsEmpty .default = true) ∧ untouched.allDefault = true ∧
    ∃ s, Specification.compile catalog model votesFilter .empty .default = .ok s ∧
      ∀ records : List Record, s.filter records untouched = records := by
  have hpolicy : ∀ d ∈ votesFilter.searched, d.skipsEmpty .default = true := by decide
  have hf : untouched.allDefault = true := by decide
  obtain ⟨s, hs⟩ : ∃ s, Specification.compile catalog model votesFilter .empty .default = .ok s :=
    ⟨_, rfl⟩
  refine ⟨hpolicy, hf, s, hs, (Specification.filter_of_allDefault hs hpolicy hf).2 ?_⟩
  refine List.forall_mem_cons.mpr ⟨?title, List.forall_mem_singleton.mpr ?votes⟩
  case title =>
    rintro ⟨inner, htype, _⟩
    cases htype
  case votes => exact fun _ => rfl

/-- The form in which the number of votes is given, as zero. -/
def noVotes : Record :=
  ⟨6, true, [("title", .text ""), ("votes", .number (.unsigned 0))]⟩

/-- **Asking for no votes leaves out a ticket with votes**, though every value of the form is a
    default of its declared class. -/
theorem filter_of_no_votes :
    (∀ d ∈ votesFilter.fields, d.skipsEmpty .default = true) ∧
    noVotes.Conforms catalog votesFilter ∧ noVotes.allDefault = true ∧
    ∃ s, Specification.compile catalog model votesFilter .empty .default = .ok s ∧
      s.filter [lost] noVotes = [] := by
  refine ⟨by decide, ?_, by decide, _, rfl, rfl⟩
  refine List.forall_mem_cons.mpr ⟨.text "", List.forall_mem_singleton.mpr ?_⟩
  exact .set (.number rfl)

end Ticket

end Sift
